/-
# Regaining authority

Evidence that matches the policy in every reference has authority over a subject, unless the
durable entry of the subject is of another generation.  Opening drops such entries and a commit
makes none; an installation that changes the generation of a subject with an entry leaves one.
-/
import FairnessGovernor.Governor.Population

namespace FairnessGovernor

open Program Runs

variable {g g' start : Governor} {trace : List (Governor × Event)}

/-! ## Eligible requests -/

/-- The snapshot is within the age bounds of the policy. -/
structure WithinAge (context : EvaluationContext) (policy : FairnessPolicy)
    (evidence : EvidenceSnapshot) : Prop where
  windows : context.currentWindow.value.toNat - context.request.window.value.toNat ≤
    policy.maxEvidenceAgeWindows.toNat
  captured : policy.maxEvidenceAgeNs > 0 → evidence.capturedAtNs ≤ context.request.nowNs
  age : policy.maxEvidenceAgeNs > 0 →
    (context.request.nowNs.toInt - evidence.capturedAtNs.toInt).toNat ≤
      policy.maxEvidenceAgeNs.toNat

section Eligibility

variable {context : EvaluationContext} {policy : FairnessPolicy} {evidence : EvidenceSnapshot}

lemma Eligible.snapshotFailure_eq (h : Eligible context policy evidence)
    (hage : WithinAge context policy evidence)
    (hcurrent : context.request.window.value ≤ context.currentWindow.value) :
    snapshotFailure context policy evidence = none := by
  unfold snapshotFailure
  dsimp only
  have hnamed : ¬ (evidence.id ≠ context.request.evidenceId ∨
      evidence.generation ≠ context.request.evidenceGeneration) := by
    rw [h.evidenceId, h.evidenceGeneration]
    simp
  have hwindow : ¬ (evidence.window ≠ context.request.window ∨
      evidence.windowGeneration ≠ context.request.windowGeneration) := by
    rw [h.window, h.windowGeneration]
    simp
  have hfresh : ¬ (context.lastCommittedWindow.valid ∧ context.request.window.valid ∧
      context.request.window.value ≤ context.lastCommittedWindow.value) := by
    rintro ⟨hlast, hvalid, hle⟩
    exact UInt64.not_le.mpr (h.window_fresh hlast hvalid) hle
  rw [if_neg hnamed, if_neg (not_not.mpr h.evidence_epoch), if_neg hwindow, if_neg hfresh,
    if_neg (UInt64.not_lt.mpr hcurrent), if_neg (not_lt.mpr hage.windows)]
  split_ifs <;> rfl

/-- An eligible snapshot within the age bounds has authority for the request. -/
lemma Eligible.eligibility_eq (h : Eligible context policy evidence)
    (hage : WithinAge context policy evidence)
    (hcurrent : context.request.window.value ≤ context.currentWindow.value)
    (hcaptured : 0 ≤ evidence.capturedAtNs.toInt) :
    eligibility context policy = .ok (.ok evidence) := by
  -- the age fits the signed word, since neither time is negative
  have haged : ageFailure policy evidence context.request.nowNs = .ok none := by
    unfold ageFailure
    by_cases hlimit : policy.maxEvidenceAgeNs > 0
    · have hle := Int64.le_iff_toInt_le.mp (hage.captured hlimit)
      have hnow := context.request.nowNs.toInt_lt
      rw [if_pos hlimit, if_neg (Int64.not_lt.mpr (hage.captured hlimit)),
        isub_eq_ok.mpr ⟨by unfold kInt64Max; omega, rfl⟩, ok_bind]
      rw [if_neg (not_lt.mpr (hage.age hlimit))]
      rfl
    · rw [if_neg hlimit]
  have hpolicy : ¬ (context.request.policyId ≠ policy.id ∨
      context.request.policyGeneration ≠ policy.generation) := by
    rw [h.policyId, h.policyGeneration]
    simp
  have hepoch : ¬ (¬ context.currentEpoch.valid ∨ policy.epoch ≠ context.currentEpoch ∨
      context.request.epoch ≠ context.currentEpoch) := by
    rw [h.policy_epoch, h.request_epoch]
    simpa using h.epoch_valid
  unfold eligibility
  dsimp only
  rw [if_neg hpolicy, if_neg hepoch, h.staged]
  dsimp only
  rw [h.snapshotFailure_eq hage hcurrent, haged]
  rfl

end Eligibility

/-- The current window is no lower than a window that is staged. -/
lemma le_currentWindow {window : UInt64} {snapshot : EvidenceSnapshot}
    (h : g.staged[window]? = some snapshot) : snapshot.window.value ≤ g.currentWindow.value := by
  unfold Governor.currentWindow
  rw [Std.TreeMap.foldl_eq_foldl_toList]
  have hmem := Std.TreeMap.mem_toList_iff_getElem?_eq_some.mpr h
  generalize g.staged.toList = entries at hmem
  -- the fold never goes down, and it passes the snapshot
  have hle : ∀ (l : List (UInt64 × EvidenceSnapshot)) (best : ServiceWindowId),
      best.value ≤ (l.foldl (fun best entry =>
        if entry.2.window.value > best.value then entry.2.window else best) best).value := by
    intro l
    induction l with
    | nil => exact fun best => UInt64.le_refl _
    | cons entry rest ih =>
      intro best
      refine UInt64.le_trans ?_ (ih _)
      dsimp only
      split_ifs with hlt
      · exact UInt64.le_of_lt hlt
      · exact UInt64.le_refl _
  obtain ⟨before, after, rfl⟩ := List.append_of_mem hmem
  rw [List.foldl_append, List.foldl_cons]
  refine UInt64.le_trans ?_ (hle after _)
  dsimp only
  split_ifs with hlt
  · exact UInt64.le_refl _
  · exact UInt64.not_lt.mp hlt

/-! ## Authority -/

/-- The observation carries the references that the policy declares for the subject. -/
structure Carries (subject : Subject) (observation : SubjectObservation) : Prop where
  generation : observation.generation = subject.generation
  priority : subject.priority.present → observation.priority = subject.priority
  qos : subject.qos.present → observation.qos = subject.qos

/-- A matching observation has authority exactly where no entry of another generation is in its
way. -/
lemma authorityPlan_iff {request : EvaluationRequest} {accounting : FairnessAccounting}
    {evidence : EvidenceSnapshot} {subject : Subject} {observation : SubjectObservation}
    (hfound : evidence.find subject.id = some observation) (h : Carries subject observation) :
    (authorityPlan request accounting evidence subject).hasAuthority = true ↔
      ∀ entry ∈ accounting.find subject.id, entry.generation = subject.generation := by
  unfold authorityPlan
  rw [hfound]
  dsimp only
  rw [if_neg (not_not.mpr h.generation), if_neg fun hp => hp.2 (h.priority hp.1),
    if_neg fun hq => hq.2 (h.qos hq.1)]
  by_cases hentry : ∃ entry ∈ accounting.find subject.id, entry.generation ≠ subject.generation
  · rw [if_pos hentry]
    obtain ⟨entry, hmem, hne⟩ := hentry
    exact ⟨fun hfalse => absurd hfalse Bool.false_ne_true, fun hall => absurd (hall entry hmem) hne⟩
  · rw [if_neg hentry]
    refine ⟨fun _ entry hmem => ?_, fun _ => rfl⟩
    by_contra hne
    exact hentry ⟨entry, hmem, hne⟩

/-- The subject is reported with authority. -/
def FairnessDecision.Authorizes (decision : FairnessDecision) (id : SubjectId) : Prop :=
  ∃ state ∈ decision.subjects, state.id = id ∧ state.hasAuthority = true

/-- A request is globally eligible, and the snapshot it names observes the subject with the
references that the policy declares for it. -/
structure MatchingEvidence (g : Governor) (request : EvaluationRequest)
    (evidence : EvidenceSnapshot) (subject : Subject) (observation : SubjectObservation) :
    Prop where
  eligible : Eligible (g.context request) g.policy evidence
  age : WithinAge (g.context request) g.policy evidence
  governed : subject ∈ g.policy.subjects
  found : evidence.find subject.id = some observation
  carries : Carries subject observation

/-- With matching evidence, the decision has authority over the subject exactly where the entry of
the subject, if there is one, is of its generation. -/
theorem MatchingEvidence.authorizes_iff {request : EvaluationRequest}
    {evidence : EvidenceSnapshot} {subject : Subject} {observation : SubjectObservation}
    {decision : FairnessDecision} (h : MatchingEvidence g request evidence subject observation)
    (hg : Sound g) (hdecision : g.evaluate request = .ok decision) :
    decision.Authorizes subject.id ↔
      ∀ entry ∈ g.accounting.find subject.id, entry.generation = subject.generation := by
  obtain ⟨-, evaluated, heval, rfl⟩ := Governor.evaluate_eq_ok hdecision
  obtain ⟨tree, eligible, whole, numbered, planned, states, hs, hd, -⟩ :=
    evaluateFairness_stages rfl rfl heval
  have hp := ValidPolicy.of_ok hg.policy_valid
  have hstaged : g.staged[request.window.value]? = some evidence := h.eligible.staged
  have hunder := hg.staged _ _ hstaged
  have hcurrent : request.window.value ≤ g.currentWindow.value := by
    rw [← hunder.window]
    exact le_currentWindow hstaged
  -- the snapshot is eligible, so authority is decided subject by subject
  obtain rfl : .ok evidence = eligible := by
    have heligible := h.eligible.eligibility_eq h.age hcurrent
      (ValidEvidence.of_ok hunder.valid).captured_nonneg
    exact Except.ok.inj (heligible.symm.trans hs.eligible_eq)
  obtain ⟨i, rfl⟩ := exists_subjectAt h.governed
  have hauthority : (states i).hasAuthority =
      (authorityPlan request g.accounting evidence (subjectAt g.policy i)).hasAuthority :=
    (hd.reported i).hasAuthority.trans (hs.hasAuthority i)
  rw [← authorityPlan_iff h.found h.carries, ← hauthority]
  constructor
  · rintro ⟨state, hstate, hid, hauth⟩
    obtain ⟨j, rfl⟩ := hd.mem_iff.mp hstate
    obtain rfl : j = i := hp.subjectAt_injective ((hd.reported j).id.symm.trans hid)
    exact hauth
  · intro hauth
    exact ⟨states i, hd.mem_iff.mpr ⟨i, rfl⟩, (hd.reported i).id, hauth⟩

/-- Matching evidence gives authority, over every subject it matches. -/
def RegainsAuthority (g : Governor) : Prop :=
  ∀ request evidence subject observation decision,
    MatchingEvidence g request evidence subject observation →
    g.evaluate request = .ok decision → decision.Authorizes subject.id

/-- The subject is governed in this generation, if it is governed. -/
def InGeneration : EntryRelation := fun policy id generation =>
  ∀ subject ∈ policy.findSubject id, subject.generation = generation

lemma inGeneration_of_findSubject (policy : FairnessPolicy) (id : SubjectId) (subject : Subject)
    (h : policy.findSubject id = some subject) : InGeneration policy id subject.generation := by
  intro other hother
  rw [h] at hother
  rw [Option.some.inj hother]

/-- In every state that a governor reaches, matching evidence gives authority, if no policy that
was installed changed the generation of a subject that had an entry. -/
theorem matching_evidence_regains {config : GovernorConfig} {boot : BootId}
    (hopens : Opens config boot start) (hrun : Run Step start trace g)
    (hinstalls : ∀ t policy result, (t, .installPolicy policy result) ∈ trace →
      InstallMeets InGeneration t policy) : RegainsAuthority g := by
  have hsound := run_sound hrun hopens.sound
  have hentries := run_entriesMeet inGeneration_of_findSubject hopens hrun hinstalls
  intro request evidence subject observation decision hmatching hdecision
  rw [hmatching.authorizes_iff hsound hdecision]
  intro entry hentry
  obtain ⟨i, rfl⟩ := exists_subjectAt hmatching.governed
  have hfound := (ValidPolicy.of_ok hsound.policy_valid).findSubject_subjectAt i
  have hmem : entry ∈ g.accounting.subjects := List.mem_of_find?_eq_some hentry
  have hid : entry.id = (subjectAt g.policy i).id := by simpa using List.find?_some hentry
  refine (hentries entry hmem _ ?_).symm
  rw [hid]
  exact hfound

/-- The governor of two subjects that has committed a window and installed the next policy. -/
def movedOn (policy : FairnessPolicy) : Governor :=
  (installedTo (committedTo stagedGovernor firstDecision).2 policy).2

/-- The second window, in which the first subject is observed in the given generation. -/
def secondSnapshot (generation : SubjectGeneration) : EvidenceSnapshot :=
  { pairEvidence [{ id := ⟨1⟩, generation := generation, servedUnits := 3 },
      { id := ⟨2⟩, generation := ⟨1⟩, servedUnits := 5 }] with id := ⟨2⟩, window := ⟨2⟩ }

/-- The request for that evidence. -/
def secondRequest : EvaluationRequest :=
  { pairRequest with policyGeneration := ⟨2⟩, evidenceId := ⟨2⟩, window := ⟨2⟩ }

/-- The governor once the second window is staged. -/
def secondStaged (policy : FairnessPolicy) (generation : SubjectGeneration) : Governor :=
  ((movedOn policy).ingestEvidence (secondSnapshot generation)).2

lemma secondRun (policy : FairnessPolicy) (generation : SubjectGeneration) :
    Run Step (memoryGovernor pairPolicy) (installCalls policy ++ [(movedOn policy,
      .ingest (secondSnapshot generation)
        ((movedOn policy).ingestEvidence (secondSnapshot generation)).1)])
      (secondStaged policy generation) :=
  (installRun policy).snoc (.ingest _ _)

/-- The next policy, in which the first subject is in its second generation. -/
def regeneratedPolicy : FairnessPolicy :=
  { renewedPolicy with
    subjects :=
      [{ id := ⟨1⟩, generation := ⟨2⟩, group := ⟨1⟩ },
        { id := ⟨2⟩, generation := ⟨1⟩, group := ⟨1⟩ }] }

lemma regenerated_matching : MatchingEvidence (secondStaged regeneratedPolicy ⟨2⟩) secondRequest
    (secondSnapshot ⟨2⟩) { id := ⟨1⟩, generation := ⟨2⟩, group := ⟨1⟩ }
    { id := ⟨1⟩, generation := ⟨2⟩, servedUnits := 3 } where
  eligible := by
    constructor <;> decide +kernel
  age := by
    constructor <;> decide +kernel
  governed := by decide +kernel
  found := by decide +kernel
  carries := by
    constructor <;> decide +kernel

lemma secondStaged_reachable (policy : FairnessPolicy) (generation : SubjectGeneration) :
    Reachable (secondStaged policy generation) :=
  ⟨_, _, _, _, memoryGovernor_opens (by decide +kernel), secondRun policy generation⟩

theorem matching_evidence_regains_renewed :
    RegainsAuthority (secondStaged renewedPolicy ⟨1⟩) := by
  refine matching_evidence_regains (memoryGovernor_opens (by decide +kernel))
    (secondRun renewedPolicy ⟨1⟩) ?_
  intro t policy result hmem _ entry hentry
  rcases List.mem_append.mp hmem with hmem | hmem
  · obtain ⟨ht, hpolicy⟩ := installCalls_install hmem
    have hall : (committedTo stagedGovernor firstDecision).2.accounting.subjects.all
        (fun entry => (renewedPolicy.findSubject entry.id).all
          fun subject => subject.generation = entry.generation) = true := by
      decide +kernel
    rw [ht] at hentry
    rw [hpolicy]
    intro subject hsubject
    have hentry' := List.all_eq_true.mp hall entry hentry
    rw [Option.mem_def.mp hsubject] at hentry'
    exact of_decide_eq_true hentry'
  · obtain ⟨-, hevent⟩ := Prod.mk_inj.mp (List.mem_singleton.mp hmem)
    simp only [reduceCtorEq] at hevent

/-- A policy that advances the generation of a subject leaves it without authority. -/
theorem not_matching_evidence_regains : ¬ ∀ g, Reachable g → RegainsAuthority g := by
  intro h
  have hstale : ((secondStaged regeneratedPolicy ⟨2⟩).evaluate secondRequest).toOption.any
      (fun decision => decision.subjects.all fun state =>
        state.id ≠ ⟨1⟩ ∨ state.hasAuthority = false) = true := by
    decide +kernel
  obtain ⟨decision, hdecision, hall⟩ := exists_ok_of_any hstale
  obtain ⟨state, hstate, hid, hauth⟩ := h (secondStaged regeneratedPolicy ⟨2⟩)
    (secondStaged_reachable regeneratedPolicy ⟨2⟩) secondRequest (secondSnapshot ⟨2⟩) _ _ decision
    regenerated_matching hdecision
  rcases of_decide_eq_true (List.all_eq_true.mp hall state hstate) with hother | hwithout
  · exact hother hid
  · rw [hauth] at hwithout
    cases hwithout

end FairnessGovernor
