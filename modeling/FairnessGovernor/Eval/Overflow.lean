/-
# Overflow-freedom of the evaluation

On validated inputs an evaluation returns a decision, or it reports that the carry of a subject
with authority leaves a discarded counter.  No other exit is taken and no machine operation
wraps.
-/
import FairnessGovernor.Eval.Bounds
import FairnessGovernor.Eval.Redistribution
import FairnessGovernor.Persist.CodecSpec

namespace FairnessGovernor

variable {context : EvaluationContext} {policy : FairnessPolicy} {accounting : FairnessAccounting}

/-- For a subject with authority, a discarded counter has no room for what this window's carry
exceeds the carry bound by. -/
def CarryOverflows (context : EvaluationContext) (policy : FairnessPolicy)
    (accounting : FairnessAccounting) : Prop :=
  ∃ covered tree split, coverage context policy accounting = .ok covered ∧
    build policy = .ok tree ∧
    distributePass tree true (∑ i, (covered i).served) = .ok split ∧
    ∃ i, (covered i).hasAuthority = true ∧
      DiscardOverflows ((accounting.find (subjectAt policy i).id).getD {})
        ((split.subject i : ℤ) - (covered i).served) policy.maxCarryUnits.toNat

section Stages

variable {tree : GroupTree policy} {eligible : Except EvidenceFailure EvidenceSnapshot}
  {request : EvaluationRequest}

/-- The served units of all subjects fit the bounded domain. -/
lemma observedTotal_ok (hcount : policy.subjects.length ≤ kMaxSubjects) {plans : Plans policy}
    (hserved : ∀ i, (plans i).served ≤ kMaxServiceUnits)
    (hzero : ∀ i, ¬ (plans i).hasAuthority → (plans i).served = 0) :
    observedTotal plans = .ok (∑ i, (plans i).served) ∧
      ∑ i, (plans i).served ≤ kMaxSubjects * kMaxServiceUnits := by
  have hle : ∑ i, (plans i).served ≤ kMaxSubjects * kMaxServiceUnits :=
    sum_subjects_le hcount hserved
  have hmax : kMaxSubjects * kMaxServiceUnits ≤ kUInt64Max := by decide
  have hsum : (List.ofFn fun i => if (plans i).hasAuthority then (plans i).served else 0).sum =
      ∑ i, (plans i).served := by
    rw [List.sum_ofFn]
    refine Finset.sum_congr rfl fun i _ => ?_
    split_ifs with hauth
    · rfl
    · exact (hzero i hauth).symm
  refine ⟨?_, hle⟩
  rw [observedTotal, checkedTotal_of_le (by rw [hsum, Nat.zero_add]; exact le_trans hle hmax), hsum,
    Nat.zero_add]
  rfl

/-- Every stage after the numbers succeeds. -/
lemma correct_and_report (hp : ValidPolicy policy)
    (hserved : ∀ i : SubjectIndex policy,
      (authorityPlans request accounting eligible i).served ≤ kMaxServiceUnits) {whole : ℕ} (hwhole : whole ≤ kMaxSubjects * kMaxServiceUnits)
    {d : Distribution policy} (hbase : ∑ s, d.base.subject s = whole)
    (heffective : ∑ s, d.effective.subject s = whole) {numbered : Plans policy}
    (hnumbered : ∀ i, numberPlan accounting d i (authorityPlans request accounting eligible i) =
      .ok (numbered i)) (missing : Bool) :
    ∃ corrected, correctPlans whole missing (fun i => demandSupplyPlan policy accounting
        request.window (subjectAt policy i) (starvationPlans eligible numbered i)) =
        .ok corrected ∧
      (∀ i, ∃ state, subjectState policy (subjectAt policy i) (corrected.1 i) = .ok state) ∧
      (∀ i, (corrected.1 i).served ≤ kMaxServiceUnits) ∧
      ∀ i, (corrected.1 i).withheld ≤ kMaxServiceUnits := by
  have hshare : ∀ i, d.effective.subject i ≤ whole := fun i => heffective ▸ le_sum _ i
  have hshare_base : ∀ i, d.base.subject i ≤ kMaxSubjects * kMaxServiceUnits := fun i =>
    le_trans (hbase ▸ le_sum _ i) hwhole
  have hbounds := fun i => numberPlan_bounds hp.maxCarry_le (hserved i) (authorityPlans_blank i)
    (hshare_base i) (hnumbered i)
  obtain ⟨asking, hasking⟩ : ∃ a : Plans policy, a = fun i => demandSupplyPlan policy accounting
      request.window (subjectAt policy i) (starvationPlans eligible numbered i) := ⟨_, rfl⟩
  have hsame : ∀ i, (numbered i).SameNumbers (asking i) := by
    intro i
    rw [hasking]
    exact (starvationPlans_sameNumbers i).trans (demandSupplyPlan_settled _ _ _ _).toSameNumbers
  have hnumbers := fun i => (hbounds i).1.of_same (hsame i)
  -- what is asked for stays within the numbers of the plan
  have hasks : ∀ i, AskingBounds (asking i) := by
    intro i
    obtain ⟨hn, hdemand, hreducible, hwithheld⟩ := hbounds i
    have hstarved : (numbered i).SameNumbers (starvationPlans eligible numbered i) :=
      starvationPlans_sameNumbers i
    have hkeeps : (numbered i).SameAsks (starvationPlans eligible numbered i) :=
      starvationPlans_asks i
    rw [hasking]
    exact demandSupplyPlan_bounds (hkeeps.demand.trans hdemand)
      (hkeeps.reducible.trans hreducible) (hkeeps.withheld.trans hwithheld)
      (hn.of_same hstarved).surplus_le
  -- and the entitlements add up to what was served, which bounds all totals
  have hall : Asking policy whole asking := by
    refine ⟨hp.subjects_le, hwhole, ?_, fun i => (hnumbers i).deficit_le, hasks⟩
    rw [← heffective]
    exact Finset.sum_le_sum fun i _ => (hnumbers i).entitlement_le
  obtain ⟨corrected, hcorrected, hlimits⟩ := hall.correctPlans_ok missing
  have hsettled := (correctPlans_eq_ok hcorrected).1
  have hfinal := fun i => (hnumbers i).of_same (hsettled i).toSameNumbers
  rw [← hasking]
  refine ⟨corrected, hcorrected, fun i => ?_, fun i => (hfinal i).served_le,
    fun i => (hlimits i).2⟩
  exact subjectState_ok hp (hlimits i).1
    (le_trans (hfinal i).entitlement_le (le_trans (hshare i) hwhole)) (hfinal i).baseEntitlement_le

/-- Once the numbers are there, the evaluation returns. -/
lemma evaluateWith_ok (hp : ValidPolicy policy) (htree : build policy = .ok tree)
    (ht : IsTreeOf tree)
    (heligible : eligibility context policy = .ok eligible)
    (hserved : ∀ i : SubjectIndex policy,
      (authorityPlans context.request accounting eligible i).served ≤ kMaxServiceUnits)
    {whole : ℕ} (hwhole : whole ≤ kMaxSubjects * kMaxServiceUnits)
    (hobserved : observedTotal (authorityPlans context.request accounting eligible :
      Plans policy) = .ok whole)
    {d : Distribution policy} (hd : distribute tree whole = .ok d)
    (hbase : PassSpec tree false whole d.base) (heffective : PassSpec tree true whole d.effective)
    {numbered : Plans policy}
    (hnumbered : numberPlans accounting d (authorityPlans context.request accounting eligible) =
      .ok numbered) : ∃ decision, evaluateWith context policy accounting = .ok decision := by
  obtain ⟨corrected, hcorrected, hstates, hserved', hwithheld⟩ :=
    correct_and_report hp hserved hwhole (hbase.conserves hp ht).subjects
      (heffective.conserves hp ht).subjects (numberPlans_eq_ok hnumbered) (!eligible.isOk)
  have hplan : plan context.request accounting tree eligible =
      .ok ⟨corrected.1, d, corrected.2⟩ := by
    unfold plan
    dsimp only
    rw [hobserved, ok_bind, hd, ok_bind, hnumbered, ok_bind, hcorrected]
    rfl
  -- the reports and the intents add bounded numbers up
  choose states hstates' using hstates
  obtain ⟨rollup, hrollup, hrollup_le⟩ := groupRollups_ok ht hp.subjects_le hserved' hwithheld
  choose groups hgroups using fun g => groupState_ok tree (hrollup_le g)
    (le_trans (heffective.allocation_le g) hwhole)
  obtain ⟨intents, hintents⟩ := correctiveIntents_ok corrected.1 hp.subjects_le
    context.request accounting.interventionGeneration
  unfold evaluateWith
  rw [htree, ofStatus, ok_bind, heligible, ok_bind, hplan, ok_bind]
  dsimp only
  rw [collect_eq_ok.mpr hstates', ok_bind, hrollup, ok_bind, collect_eq_ok.mpr hgroups, ok_bind,
    hintents, ok_bind]
  exact ⟨_, rfl⟩

end Stages

/-- Where the carry is within the bounded domain an evaluation returns a decision; the only
failure is a discarded counter without room for this window's carry. -/
theorem evaluateFairness_total (hpolicy : context.policy = some policy)
    (haccounting : context.accounting = some accounting)
    (hvalid : validatePolicy policy = .ok ())
    (hevidence : ∀ evidence ∈ context.evidence, validateEvidence evidence = .ok ())
    (hcarry : BoundedCarry accounting.subjects) :
    (∃ decision, evaluateFairness context = .ok decision) ∨
      evaluateFairness context = fail .arithmeticOverflow "carry application overflows" ∧
        CarryOverflows context policy accounting := by
  have hp := ValidPolicy.of_ok hvalid
  have hev : ∀ e ∈ context.evidence, ValidEvidence e := fun e he => .of_ok (hevidence e he)
  obtain ⟨eligible, heligible⟩ : ∃ e, eligibility context policy = .ok e := eligibility_ok hev
  have hserved : ∀ i : SubjectIndex policy,
      (authorityPlans context.request accounting eligible i).served ≤ kMaxServiceUnits :=
    authorityPlans_served_le fun e he => hev e (Eligible.of_ok (he ▸ heligible)).staged
  obtain ⟨hobserved, hwhole⟩ := observedTotal_ok hp.subjects_le hserved
    fun i => authorityPlans_served_eq_zero
  have hword : kMaxSubjects * kMaxServiceUnits ≤ kUInt64Max := by decide
  obtain ⟨tree, d, htree, ht, hd, hbase, heffective⟩ := hp.distribute_ok (le_trans hwhole hword)
  have hrun : evaluateFairness context = evaluateWith context policy accounting := by
    rw [evaluateFairness, hpolicy, haccounting]
  rw [hrun]
  cases hnumbered : numberPlans accounting d
      (authorityPlans context.request accounting eligible) with
  | ok numbered =>
    exact .inl (evaluateWith_ok hp htree ht heligible hserved hwhole hobserved hd hbase
      heffective hnumbered)
  | error e =>
    right
    -- the first subject whose numbers fail fails on a discarded counter
    obtain ⟨i, hi⟩ := collect_eq_error hnumbered
    have hshare : d.effective.subject i ≤ kMaxSubjects * kMaxServiceUnits :=
      le_trans ((heffective.conserves hp ht).subjects ▸ le_sum _ i) hwhole
    rcases numberPlan_total hcarry (hserved i) hshare with ⟨q, hq⟩ | ⟨hfail, hauth, hoverflow⟩
    · rw [hi] at hq
      cases hq
    · rw [hi] at hfail
      constructor
      · unfold evaluateWith plan
        rw [htree, ofStatus, ok_bind, heligible, ok_bind]
        dsimp only
        rw [hobserved, ok_bind, hd, ok_bind, hnumbered, Except.error.inj hfail]
        rfl
      · refine ⟨_, tree, d.effective, ?_, htree, (distribute_eq_ok.mp hd).2, i, hauth, hoverflow⟩
        rw [coverage, heligible, ok_bind]
        rfl

/-- A discarded counter in the lower half of its word has room for any window. -/
lemma not_discardOverflows {current : SubjectAccounting} {net : ℤ} {maxCarry : ℕ}
    (hd : current.cumulativeDeficit.toNat ≤ kMaxCarryUnits)
    (hs : current.cumulativeSurplus.toNat ≤ kMaxCarryUnits) (hnet : net.natAbs ≤ 2 ^ 60)
    (hdeficit : current.discardedDeficit.toNat < 2 ^ 63)
    (hsurplus : current.discardedSurplus.toNat < 2 ^ 63) :
    ¬ DiscardOverflows current net maxCarry := by
  unfold kMaxCarryUnits at hd hs
  unfold DiscardOverflows carriedDeficit carriedSurplus kUInt64Max
  split_ifs <;> omega

/-- Where all discarded counters are in the lower half of their words, no window overflows them. -/
lemma not_carryOverflows (hvalid : validatePolicy policy = .ok ())
    (hevidence : ∀ evidence ∈ context.evidence, validateEvidence evidence = .ok ())
    (hcarry : BoundedCarry accounting.subjects)
    (hdiscarded : ∀ entry ∈ accounting.subjects, entry.discardedDeficit.toNat < 2 ^ 63 ∧
      entry.discardedSurplus.toNat < 2 ^ 63) : ¬ CarryOverflows context policy accounting := by
  rintro ⟨covered, tree, split, hcovered, htree, hsplit, i, hauth, hoverflow⟩
  have hp := ValidPolicy.of_ok hvalid
  have hev : ∀ e ∈ context.evidence, ValidEvidence e := fun e he => .of_ok (hevidence e he)
  obtain ⟨eligible, heligible, hcovered⟩ := bind_eq_ok.mp hcovered
  obtain rfl := Except.ok.inj hcovered
  have hserved : ∀ i : SubjectIndex policy,
      (authorityPlans context.request accounting eligible i).served ≤ kMaxServiceUnits :=
    authorityPlans_served_le fun e he => hev e (Eligible.of_ok (he ▸ heligible)).staged
  obtain ⟨-, hwhole⟩ := observedTotal_ok hp.subjects_le hserved
    fun i => authorityPlans_served_eq_zero
  obtain ⟨tree', d, htree', ht, hd, -, heffective⟩ :=
    hp.distribute_ok (le_trans hwhole (by decide))
  obtain rfl := Except.ok.inj (htree.symm.trans htree')
  obtain rfl := Except.ok.inj (hsplit.symm.trans (distribute_eq_ok.mp hd).2)
  have hshare : d.effective.subject i ≤ kMaxSubjects * kMaxServiceUnits :=
    le_trans ((heffective.conserves hp ht).subjects ▸ le_sum _ i) hwhole
  have hserved_i := hserved i
  unfold kMaxSubjects kMaxServiceUnits at *
  -- a subject without an entry starts from zero counters
  have hroom : ((accounting.find (subjectAt policy i).id).getD {}).discardedDeficit.toNat < 2 ^ 63 ∧
      ((accounting.find (subjectAt policy i).id).getD {}).discardedSurplus.toNat < 2 ^ 63 := by
    cases hfind : accounting.find (subjectAt policy i).id with
    | none => exact ⟨by decide, by decide⟩
    | some entry => exact hdiscarded entry (List.mem_of_find?_eq_some hfind)
  obtain ⟨hdeficit, hsurplus⟩ := hcarry.find (subjectAt policy i).id
  exact not_discardOverflows hdeficit hsurplus (by omega) hroom.1 hroom.2 hoverflow

/-- On validated inputs an evaluation returns a decision; the only failure is a discarded
counter without room for this window's carry. -/
theorem evaluateFairness_returns {bytes : ByteBuffer} (hpolicy : context.policy = some policy)
    (haccounting : context.accounting = some accounting)
    (hvalid : validatePolicy policy = .ok ())
    (hevidence : ∀ evidence ∈ context.evidence, validateEvidence evidence = .ok ())
    (hdecoded : decodeAccounting bytes = .ok accounting) :
    (∃ decision, evaluateFairness context = .ok decision) ∨
      evaluateFairness context = fail .arithmeticOverflow "carry application overflows" ∧
        CarryOverflows context policy accounting :=
  evaluateFairness_total hpolicy haccounting hvalid hevidence
    (ValidAccounting.of_decode hdecoded).boundedCarry

theorem evaluateFairness_returns_pair :
    (∃ decision, evaluateFairness (pairContext
        [{ id := ⟨1⟩, generation := ⟨1⟩, servedUnits := 10 }]) = .ok decision) ∨
      evaluateFairness (pairContext [{ id := ⟨1⟩, generation := ⟨1⟩, servedUnits := 10 }]) =
        fail .arithmeticOverflow "carry application overflows" ∧
      CarryOverflows (pairContext [{ id := ⟨1⟩, generation := ⟨1⟩, servedUnits := 10 }])
        pairPolicy {} :=
  evaluateFairness_returns rfl rfl (by decide +kernel) (by decide +kernel)
    (decodeAccounting_encodeAccounting ⟨by simp, by simp⟩ (by decide +kernel))

end FairnessGovernor
