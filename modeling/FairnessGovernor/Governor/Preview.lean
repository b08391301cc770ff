/-
# A governor's own decisions, committed

What `commit` checks of a decision that the same governor has just evaluated: everything but
the window holds by itself.  And what applying it comes to, entry by entry.
-/
import FairnessGovernor.Governor.Absence
import FairnessGovernor.Governor.Serialized
import FairnessGovernor.Governor.Sound

namespace FairnessGovernor

open Program Runs

/-! ## The checks of the plan -/

/-- The totals of the intents, as long as they fit the word. -/
lemma intentTotals_eq {intents : List CorrectiveIntent} {augment reduce : ℕ}
    (haugment : augment + ((intents.filter fun i => i.direction = .augment).map (·.units)).sum ≤
      kUInt64Max)
    (hreduce : reduce + ((intents.filter fun i => i.direction = .reduce).map (·.units)).sum ≤
      kUInt64Max) :
    intentTotals intents augment reduce =
      .ok (augment + ((intents.filter fun i => i.direction = .augment).map (·.units)).sum,
        reduce + ((intents.filter fun i => i.direction = .reduce).map (·.units)).sum) := by
  induction intents generalizing augment reduce with
  | nil => rfl
  | cons intent rest ih =>
    rw [intentTotals]
    -- An intent counts in one of the two totals and is filtered out of the other.
    cases hdirection : intent.direction with
    | augment =>
      rw [List.filter_cons_of_pos (by simp [hdirection]), List.map_cons, List.sum_cons,
        ← Nat.add_assoc] at haugment ⊢
      rw [List.filter_cons_of_neg (by simp [hdirection])] at hreduce ⊢
      dsimp only
      rw [checkedAdd_of_le (by omega)]
      exact ih haugment hreduce
    | reduce =>
      rw [List.filter_cons_of_neg (by simp [hdirection])] at haugment ⊢
      rw [List.filter_cons_of_pos (by simp [hdirection]), List.map_cons, List.sum_cons,
        ← Nat.add_assoc] at hreduce ⊢
      dsimp only
      rw [checkedAdd_of_le (by omega)]
      exact ih haugment hreduce

section Plan

variable {context : EvaluationContext} {policy : FairnessPolicy}
  {accounting : FairnessAccounting} {decision : FairnessDecision}
  {whole : ℕ} {planned : Planned policy} {states : SubjectIndex policy → SubjectFairnessState}
  {missing : Bool} {asking : Plans policy}

/-- There are at most two intents for every subject. -/
lemma Evaluated.intents_length (hd : Evaluated context policy accounting planned states decision)
    (hp : ValidPolicy policy) : decision.intents.length ≤ kMaxCorrectiveIntents := by
  obtain ⟨augments, reduces, hintents, haugments, hreduces⟩ := hd.issued
  have hdemand : (demandOrder planned.plans).length ≤ kMaxSubjects :=
    le_trans (length_stdSort_filter_le _ _) hp.subjects_le
  have hsupply : (supplyOrder planned.plans).length ≤ kMaxSubjects :=
    le_trans (length_stdSort_filter_le _ _) hp.subjects_le
  have hmax : kMaxSubjects + kMaxSubjects = kMaxCorrectiveIntents := rfl
  have haugments_le : augments.length ≤ kMaxSubjects := by
    rw [← List.Forall₂.length_eq haugments]
    exact le_trans (List.length_filter_le _ _) hdemand
  have hreduces_le : reduces.length ≤ kMaxSubjects := by
    rw [← List.Forall₂.length_eq hreduces]
    exact le_trans (List.length_filter_le _ _) hsupply
  rw [hintents, List.length_append]
  omega

/-- The plan of an evaluation passes the checks of a commit. -/
lemma Evaluated.checkCorrection_ok (hd : Evaluated context policy accounting planned states decision)
    (hc : Corrected policy whole missing asking planned.plans planned.correction)
    (hp : ValidPolicy policy) : checkCorrection decision = .ok () := by
  obtain ⟨haugment, hreduce⟩ := hd.moved_eq hc
  obtain ⟨bps, -, hbudget⟩ := hc.budget
  have hword : planned.correction.authorizedBudgetUnits ≤ kUInt64Max := by
    have hmax := policy.maxCorrectionUnits.toNat_lt
    unfold kUInt64Max
    omega
  have htotals : intentTotals decision.intents 0 0 =
      .ok (planned.correction.authorizedBudgetUnits,
        planned.correction.authorizedBudgetUnits) := by
    unfold FairnessDecision.moved at haugment hreduce
    rw [intentTotals_eq (by omega) (by omega), haugment, hreduce, Nat.zero_add]
  simp only [checkCorrection, rejectIf_bind_eq_ok, rejectIf_eq_ok, htotals, ok_bind,
    hd.correction, hc.augmentUnits, hc.reduceUnits, not_lt]
  exact ⟨by simp, by simp, hd.intents_length hp⟩

end Plan

/-! ## The checks of a decision -/

variable {g g' : Governor} {request : EvaluationRequest} {decision : FairnessDecision}

/-- The request names a window that a commit takes. -/
structure Committable (g : Governor) (request : EvaluationRequest) : Prop where
  window_valid : request.window.valid
  windowGeneration_valid : request.windowGeneration.valid
  window_fresh : g.accounting.lastWindow.valid →
    g.accounting.lastWindow.value < request.window.value

/-- Of a governor's own decision a commit has nothing to object to but its window. -/
theorem evaluate_checked_iff (hg : Sound g) (h : g.evaluate request = .ok decision) :
    Checked g decision ↔ Committable g request := by
  have hauthority := evaluate_authority h
  obtain ⟨hrunning, evaluated, heval, rfl⟩ := Governor.evaluate_eq_ok h
  obtain ⟨tree, eligible, whole, numbered, planned, states, hs, hd, hc, -⟩ :=
    evaluateFairness_stages rfl rfl heval
  have hp := ValidPolicy.of_ok hg.policy_valid
  constructor
  · intro hchecked
    have hvalid := hchecked.window_valid
    have hgeneration := hchecked.windowGeneration_valid
    have hfresh := hchecked.window_fresh
    rw [hauthority] at hvalid hgeneration hfresh
    exact ⟨hvalid, hgeneration, hfresh⟩
  · -- an evaluated decision carries the identity of its governor, so only the window is left to check
    -- an evaluated decision carries its governor's identity; only the window is left to check
    intro hwindow
    refine ⟨hrunning, ?_, ?_, ?_, ?_, ?_, ?_, ?_, ?_, ?_, ?_, ?_⟩
    · rw [hauthority]
    · rw [hauthority]
      rfl
    · rw [hauthority]
      rfl
    · rw [hauthority]
      rfl
    · rw [hauthority]
      rfl
    · rw [hauthority]
      exact hwindow.window_valid
    · rw [hauthority]
      exact hwindow.windowGeneration_valid
    · rw [hauthority]
      exact hwindow.window_fresh
    · show evaluated.subjects.length = g.policy.subjects.length
      rw [hd.subjects, List.length_ofFn]
    · show decisionDigest evaluated = evaluated.contentDigest
      exact hd.digest.symm
    · exact hd.checkCorrection_ok hc hp

/-! ## The entries behind a decision -/

/-- The entry of a reported subject, or a fresh one. -/
def entryFor (entries : List SubjectAccounting) (state : SubjectFairnessState) :
    SubjectAccounting :=
  (entryOf state.id entries).getD { id := state.id, generation := state.generation }

/-- What the record of a subject with authority was computed from: the entry of the subject, and
the policy it is governed by. -/
structure Projected (policy : FairnessPolicy) (entries : List SubjectAccounting)
    (state : SubjectFairnessState) : Prop where
  governed : ∃ subject ∈ policy.findSubject state.id, subject.generation = state.generation
  net : netUnits state = (state.entitlementUnits : ℤ) - state.servedUnits
  carry : ∃ carry, applyWindowCarry (entryFor entries state) (netUnits state)
      policy.maxCarryUnits.toNat = some carry ∧
    state.cumulativeDeficitAfter = carry.cumulativeDeficit ∧
    state.cumulativeSurplusAfter = carry.cumulativeSurplus
  unserved : state.servedUnits = 0 →
    bumpStreak (entryFor entries state).unservedStreak ≤ state.unservedStreak

lemma netUnits_of_le {state : SubjectFairnessState} (hentitlement : state.entitlementUnits ≤ kInt64Max)
    (hserved : state.servedUnits ≤ kInt64Max) :
    netUnits state = (state.entitlementUnits : ℤ) - state.servedUnits := by
  unfold kInt64Max at *
  unfold netUnits
  rw [Int64.toInt_sub, Int64.toInt_ofNat_of_lt (by omega), Int64.toInt_ofNat_of_lt (by omega)]
  exact Int.bmod_eq_of_le (by omega) (by omega)

/-- A fresh entry carries what no entry carries. -/
lemma applyWindowCarry_entryFor (accounting : FairnessAccounting) (state : SubjectFairnessState)
    (net : ℤ) (maxCarry : ℕ) :
    applyWindowCarry (entryFor accounting.subjects state) net maxCarry =
      applyWindowCarry ((accounting.find state.id).getD {}) net maxCarry := by
  unfold entryFor
  rw [find_eq_entryOf]
  cases entryOf state.id accounting.subjects with
  | none => rfl
  | some entry => rfl

lemma unservedStreak_entryFor (accounting : FairnessAccounting) (state : SubjectFairnessState) :
    (entryFor accounting.subjects state).unservedStreak =
      (accounting.find state.id).elim 0 (·.unservedStreak) := by
  unfold entryFor
  rw [find_eq_entryOf]
  cases entryOf state.id accounting.subjects with
  | none => rfl
  | some entry => rfl

/-- Every record with authority is a projection of the entry it was computed from. -/
theorem evaluate_projected (hg : Sound g) (h : g.evaluate request = .ok decision)
    {state : SubjectFairnessState} (hstate : state ∈ decision.subjects)
    (hauth : state.hasAuthority = true) : Projected g.policy g.accounting.subjects state := by
  obtain ⟨-, evaluated, heval, rfl⟩ := Governor.evaluate_eq_ok h
  obtain ⟨tree, eligible, whole, numbered, planned, states, hs, hd, -⟩ :=
    evaluateFairness_stages rfl rfl heval
  have hp := ValidPolicy.of_ok hg.policy_valid
  obtain ⟨i, rfl⟩ := hd.mem_iff.mp hstate
  have hr := hd.reported i
  have hsame := hs.sameNumbers i
  rw [hr.hasAuthority] at hauth
  have hn := hs.numbered_of_authority hauth
  have hrange := numberPlan_range (hs.numbered_eq i) hn.hasAuthority
  have hentitlement : (states i).entitlementUnits = (numbered i).entitlement :=
    hr.entitlement.trans hsame.entitlement
  have hserved : (states i).servedUnits = (numbered i).served := hr.served.trans hsame.served
  have hnet : netUnits (states i) = _ := netUnits_of_le (hentitlement ▸ hrange.1) (hserved ▸ hrange.2)
  refine ⟨⟨subjectAt g.policy i, ?_, hr.generation.symm⟩, hnet, ⟨(numbered i).carry, ?_, ?_, ?_⟩, ?_⟩
  · rw [hr.id]
    exact hp.findSubject_subjectAt i
  · rw [applyWindowCarry_entryFor, hnet, hentitlement, hserved, hr.id]
    exact hn.carry
  · rw [hr.deficitAfter, hsame.carry]
  · rw [hr.surplusAfter, hsame.carry]
  · -- a streak that the producer reports can only be added to the durable one
    intro hzero
    rw [hserved] at hzero
    have hstreak := hn.unservedStreak
    rw [if_pos hzero] at hstreak
    rw [hr.unservedStreak, (hs.settled i).unservedStreak, unservedStreak_entryFor, hr.id,
      ← hstreak]
    cases eligible with
    | error failure => exact UInt32.le_refl _
    | ok evidence => exact (starvationPlan_unserved _ _).1

/-! ## Applying a decision -/

/-- The entry of a subject after the window. -/
def SubjectAccounting.after (entry : SubjectAccounting) (state : SubjectFairnessState)
    (carry : CarryOutcome) : SubjectAccounting :=
  { entry with
    cumulativeDeficit := UInt64.ofNat carry.cumulativeDeficit
    cumulativeSurplus := UInt64.ofNat carry.cumulativeSurplus
    discardedDeficit := UInt64.ofNat carry.discardedDeficit
    discardedSurplus := UInt64.ofNat carry.discardedSurplus
    unservedStreak := state.unservedStreak
    belowFloorStreak := state.belowFloorStreak
    windowsObserved := UInt64.ofNat (entry.windowsObserved.toNat + 1)
    totalServedUnits := UInt64.ofNat (entry.totalServedUnits.toNat + state.servedUnits) }

/-- The counters of an entry have room for a window. -/
structure CountersFit (entry : SubjectAccounting) (state : SubjectFairnessState) : Prop where
  windows : entry.windowsObserved.toNat + 1 ≤ kUInt64Max
  total : entry.totalServedUnits.toNat + state.servedUnits ≤ kUInt64Max

lemma applyState_eq_ok {maxCarry : ℕ} {state : SubjectFairnessState}
    {entry updated : SubjectAccounting} :
    applyState maxCarry state entry = .ok updated ↔ ∃ carry,
      applyWindowCarry entry (netUnits state) maxCarry = some carry ∧ CountersFit entry state ∧
        updated = entry.after state carry := by
  unfold applyState
  cases hcarry : applyWindowCarry entry (netUnits state) maxCarry with
  | none => simp
  | some carry =>
    by_cases hwindows : entry.windowsObserved.toNat + 1 ≤ kUInt64Max
    · by_cases htotal : entry.totalServedUnits.toNat + state.servedUnits ≤ kUInt64Max
      · rw [checkedAdd_of_le hwindows, checkedAdd_of_le htotal]
        constructor
        · intro h
          exact ⟨carry, rfl, ⟨hwindows, htotal⟩, (Except.ok.inj h).symm⟩
        · rintro ⟨_, hsome, -, rfl⟩
          obtain rfl := Option.some.inj hsome
          rfl
      · rw [checkedAdd_of_le hwindows, checkedAdd_eq_none.mpr (by omega)]
        simp only [reduceCtorEq, false_iff, not_exists, not_and]
        exact fun _ _ hfit => absurd hfit.total htotal
    · rw [checkedAdd_eq_none.mpr (Nat.lt_of_not_le hwindows)]
      simp only [reduceCtorEq, false_iff, not_exists, not_and]
      exact fun _ _ hfit => absurd hfit.windows hwindows

/-- An update that succeeds on the entry of a subject succeeds. -/
lemma updateEntry_ok {id : SubjectId} {generation : SubjectGeneration}
    {update : SubjectAccounting → Except Status SubjectAccounting}
    {entries : List SubjectAccounting}
    (h : ∃ updated, update ((entryOf id entries).getD { id := id, generation := generation }) =
      .ok updated) : ∃ entries', updateEntry id generation update entries = .ok entries' := by
  obtain ⟨updated, h⟩ := h
  induction entries with
  | nil =>
    rw [updateEntry]
    rw [show update { id := id, generation := generation } = .ok updated from h]
    exact ⟨_, rfl⟩
  | cons entry rest ih =>
    rw [updateEntry]
    rw [entryOf_cons] at h
    by_cases hentry : entry.id = id
    · rw [if_pos hentry] at h ⊢
      rw [show update entry = .ok updated from h]
      exact ⟨_, rfl⟩
    · rw [if_neg hentry] at h ⊢
      obtain ⟨rest', hrest⟩ := ih h
      rw [hrest]
      exact ⟨_, rfl⟩

/-- A decision can be applied when every record with authority can. -/
lemma foldlM_applySubject_ok {policy : FairnessPolicy} {states : List SubjectFairnessState}
    {entries : List SubjectAccounting} (hnodup : (states.map (·.id)).Nodup)
    (h : ∀ state ∈ states, state.hasAuthority = true →
      Projected policy entries state ∧ CountersFit (entryFor entries state) state) :
    ∃ entries', states.foldlM (applySubject policy) entries = .ok entries' := by
  induction states generalizing entries with
  | nil => exact ⟨entries, rfl⟩
  | cons state rest ih =>
    rw [List.map_cons, List.nodup_cons] at hnodup
    have hfresh : ∀ s ∈ rest, s.id ≠ state.id := fun s hs heq =>
      hnodup.1 (List.mem_map.mpr ⟨s, hs, heq⟩)
    rw [List.foldlM_cons]
    obtain ⟨next, hnext⟩ : ∃ next, applySubject policy entries state = .ok next := by
      unfold applySubject
      by_cases hauth : ¬ state.hasAuthority
      · rw [if_pos hauth]
        exact ⟨_, rfl⟩
      · obtain ⟨hprojected, hfit⟩ := h state List.mem_cons_self (not_not.mp hauth)
        obtain ⟨carry, hcarry, -⟩ := hprojected.carry
        rw [if_neg hauth, rejectIf_eq_ok.mpr (not_not.mpr hprojected.governed), ok_bind]
        exact updateEntry_ok ⟨_, applyState_eq_ok.mpr ⟨carry, hcarry, hfit, rfl⟩⟩
    rw [hnext, ok_bind]
    -- the entries of the other subjects are still those the records were computed from
    refine ih hnodup.2 fun s hs hauth => ?_
    obtain ⟨hprojected, hfit⟩ := h s (List.mem_cons_of_mem _ hs) hauth
    have hsame : entryFor next s = entryFor entries s := by
      unfold entryFor
      rw [(applySubject_eq_ok hnext).2.2 s.id (hfresh s hs)]
    refine ⟨⟨hprojected.governed, hprojected.net, ?_, ?_⟩, ?_⟩
    · rw [hsame]
      exact hprojected.carry
    · rw [hsame]
      exact hprojected.unserved
    · rw [hsame]
      exact hfit

end FairnessGovernor
