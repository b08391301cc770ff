/-
# The decision and the order of declarations

Reordering the groups and subjects of a policy, the observations and the accounting entries gives
every subject the same plan at another position: every stage reads a subject's own record, what it
looks up by identity, what the distribution gave it, and sums.  So what is decided depends on the
order of the declarations only through sorts that do not separate two competitors, and these are
the sorts of siblings with one composite key.
-/
import FairnessGovernor.Eval.Reordering
import FairnessGovernor.Eval.Overflow

namespace FairnessGovernor

open Apportion Sorting

/-! ## The same inputs in another order -/

/-- The snapshots carry the same observations, each in its own order. -/
inductive EvidenceSnapshot.Reorders (snapshot : EvidenceSnapshot) : EvidenceSnapshot → Prop
  | mk {observations : List SubjectObservation} : snapshot.observations.Perm observations →
      EvidenceSnapshot.Reorders snapshot { snapshot with observations := observations }

/-- The accountings hold the same entries, each in its own order. -/
inductive FairnessAccounting.Reorders (accounting : FairnessAccounting) : FairnessAccounting → Prop
  | mk {subjects : List SubjectAccounting} : accounting.subjects.Perm subjects →
      FairnessAccounting.Reorders accounting { accounting with subjects := subjects }

/-- The contexts differ in the order of what they declare. -/
inductive EvaluationContext.Reorders (context : EvaluationContext) (policy reordered : FairnessPolicy)
    (accounting accounting' : FairnessAccounting) : EvaluationContext → Prop
  | mk {evidence : Option EvidenceSnapshot} : policy.Reorders reordered →
      accounting.Reorders accounting' →
      Option.Rel EvidenceSnapshot.Reorders context.evidence evidence →
      EvaluationContext.Reorders context policy reordered accounting accounting'
        { context with
          policy := some reordered, accounting := some accounting', evidence := evidence }

/-- The evidence has authority in both orders, or is refused for one reason. -/
inductive SameEligible : Except EvidenceFailure EvidenceSnapshot →
    Except EvidenceFailure EvidenceSnapshot → Prop
  | error (failure : EvidenceFailure) : SameEligible (.error failure) (.error failure)
  | ok {evidence evidence' : EvidenceSnapshot} : ValidEvidence evidence →
      evidence.Reorders evidence' → SameEligible (.ok evidence) (.ok evidence')

section Inputs

variable {policy reordered : FairnessPolicy} {accounting accounting' : FairnessAccounting}
  {evidence evidence' : EvidenceSnapshot}
  {eligible eligible' : Except EvidenceFailure EvidenceSnapshot}
  {context context' : EvaluationContext}

lemma EvidenceSnapshot.Reorders.find_eq (h : evidence.Reorders evidence')
    (hvalid : ValidEvidence evidence) (id : SubjectId) : evidence'.find id = evidence.find id := by
  obtain ⟨hperm⟩ := h
  exact find?_eq_of_perm hvalid.ids_nodup hperm id

lemma EvidenceSnapshot.Reorders.valid (h : evidence.Reorders evidence')
    (hvalid : ValidEvidence evidence) : ValidEvidence evidence' := by
  obtain ⟨hperm⟩ := h
  exact { hvalid with
    observations_le := hperm.length_eq ▸ hvalid.observations_le
    observation_valid := fun o ho => hvalid.observation_valid o (hperm.mem_iff.mpr ho)
    ids_nodup := (hperm.map _).nodup_iff.mp hvalid.ids_nodup }

lemma FairnessAccounting.Reorders.find_eq (h : accounting.Reorders accounting')
    (hids : (accounting.subjects.map (·.id)).Nodup) (id : SubjectId) :
    accounting'.find id = accounting.find id := by
  obtain ⟨hperm⟩ := h
  exact find?_eq_of_perm hids hperm id

/-- Eligibility looks at no list. -/
lemma EvaluationContext.Reorders.eligibility_eq
    (h : context.Reorders policy reordered accounting accounting' context')
    (hvalid : ∀ e ∈ context.evidence, ValidEvidence e)
    (heligible : eligibility context policy = .ok eligible) :
    ∃ eligible', eligibility context' reordered = .ok eligible' ∧
      SameEligible eligible eligible' := by
  obtain @⟨evidence, @⟨groups, subjects, -, -⟩, -, hevidence⟩ := h
  unfold eligibility at heligible ⊢
  dsimp only at heligible ⊢
  split_ifs at heligible ⊢ with hpolicy hepoch
  · obtain rfl := Except.ok.inj heligible
    exact ⟨_, rfl, .error _⟩
  · obtain rfl := Except.ok.inj heligible
    exact ⟨_, rfl, .error _⟩
  · generalize hstaged : context.evidence = staged at hvalid heligible hevidence
    cases hevidence with
    | none =>
      obtain rfl := Except.ok.inj heligible
      exact ⟨_, rfl, .error _⟩
    | @some e e' hreorders =>
      -- the checks of a snapshot look at its header
      have hsnapshot : snapshotFailure
          { context with
            policy := some { policy with groups := groups, subjects := subjects }
            accounting := some accounting', evidence := some e' }
          { policy with groups := groups, subjects := subjects } e' =
            snapshotFailure context policy e := by
        obtain ⟨-⟩ := hreorders
        rfl
      have hage : ageFailure { policy with groups := groups, subjects := subjects } e'
          context.request.nowNs = ageFailure policy e context.request.nowNs := by
        obtain ⟨-⟩ := hreorders
        rfl
      dsimp only at heligible ⊢
      rw [hsnapshot]
      cases hfailure : snapshotFailure context policy e with
      | some failure =>
        rw [hfailure] at heligible
        obtain rfl := Except.ok.inj heligible
        exact ⟨_, rfl, .error _⟩
      | none =>
        rw [hfailure] at heligible
        dsimp only at heligible ⊢
        rw [hage]
        obtain ⟨aged, haged, heligible⟩ := bind_eq_ok.mp heligible
        obtain rfl := Except.ok.inj heligible
        rw [haged, ok_bind]
        cases aged with
        | some failure => exact ⟨_, rfl, .error _⟩
        | none => exact ⟨_, rfl, .ok (hvalid e rfl) hreorders⟩

end Inputs

/-- The unmet demand is a sum. -/
lemma unsatisfiedDemand_eq_ok {policy : FairnessPolicy} {plans : Plans policy} {unsatisfied : ℕ}
    (h : unsatisfiedDemand policy plans = .ok unsatisfied) :
    unsatisfied = ∑ i, if ¬ (plans i).hasAuthority ∨ (plans i).cooling ∨
      (plans i).effectiveDeficit ≤ policy.fairBandUnits.toNat then 0
      else (plans i).effectiveDeficit - (plans i).augment := by
  -- the loop over any list of subjects, from any start
  have hloop : ∀ (order : List (SubjectIndex policy)) (start total : ℕ),
      order.foldlM (fun unsatisfied i =>
        if ¬ (plans i).hasAuthority ∨ (plans i).cooling ∨
            (plans i).effectiveDeficit ≤ policy.fairBandUnits.toNat then .ok unsatisfied
        else do
          let unmet ← usub (plans i).effectiveDeficit (plans i).augment
          orFail .arithmeticOverflow "unsatisfied demand overflows" (checkedAdd unsatisfied unmet))
        start = (.ok total : Eval ℕ) →
      total = start + (order.map fun i => if ¬ (plans i).hasAuthority ∨ (plans i).cooling ∨
        (plans i).effectiveDeficit ≤ policy.fairBandUnits.toNat then 0
        else (plans i).effectiveDeficit - (plans i).augment).sum := by
    intro order
    induction order with
    | nil =>
      intro start total h
      exact (Except.ok.inj h).symm
    | cons i order ih =>
      intro start total h
      rw [List.foldlM_cons] at h
      obtain ⟨next, hnext, h⟩ := bind_eq_ok.mp h
      rw [ih next total h, List.map_cons, List.sum_cons]
      split_ifs at hnext ⊢ with hskip
      · rw [← Except.ok.inj hnext, Nat.zero_add]
      · obtain ⟨unmet, hunmet, hnext⟩ := bind_eq_ok.mp hnext
        rw [(checkedAdd_eq_some.mp (orFail_eq_ok.mp hnext)).2, (usub_eq_ok.mp hunmet).2,
          Nat.add_assoc]
  rw [hloop _ _ _ h, Nat.zero_add, ← List.sum_ofFn, List.ofFn_eq_map]

/-! ## Sums -/

lemma checkedTotal_perm {xs ys : List ℕ} (h : xs.Perm ys) : checkedTotal xs 0 = checkedTotal ys 0 := by
  by_cases hle : 0 + xs.sum ≤ kUInt64Max
  · rw [checkedTotal_of_le hle, checkedTotal_of_le (h.sum_eq ▸ hle), h.sum_eq]
  · have hnone : ∀ {zs : List ℕ}, zs.sum = xs.sum → checkedTotal zs 0 = none := by
      intro zs hzs
      cases hsome : checkedTotal zs 0 with
      | none => rfl
      | some v => exact absurd (hzs ▸ (checkedTotal_eq_some hsome (Nat.zero_le _)).1) hle
    rw [hnone rfl, hnone h.sum_eq.symm]

lemma ofFn_perm {α : Type} {n m : ℕ} (e : Fin n ≃ Fin m) {f : Fin n → α} {f' : Fin m → α}
    (h : ∀ i, f' (e i) = f i) : (List.ofFn f').Perm (List.ofFn f) := by
  have hperm := (map_filter_finRange e (p := fun _ => true) (q := fun _ => true)
    fun _ => rfl).map f'
  rw [List.filter_eq_self.mpr fun _ _ => rfl, List.filter_eq_self.mpr fun _ _ => rfl,
    List.map_map] at hperm
  rw [List.ofFn_eq_map, List.ofFn_eq_map]
  simp only [Function.comp_def, h] at hperm
  exact hperm.symm

/-! ## The plans -/

section Plans

variable {policy reordered : FairnessPolicy} {accounting accounting' : FairnessAccounting}
  {eligible eligible' : Except EvidenceFailure EvidenceSnapshot} (σ : Positions policy reordered)

/-- The plans are the same, each at its own position. -/
def SamePlans (σ : Positions policy reordered) (plans : Plans policy) (plans' : Plans reordered) :
    Prop :=
  ∀ i, plans' (σ.subject i) = plans i

lemma sum_subjects (f : SubjectIndex policy → ℕ) (f' : SubjectIndex reordered → ℕ)
    (h : ∀ i, f' (σ.subject i) = f i) : ∑ i, f' i = ∑ i, f i := by
  rw [← Equiv.sum_comp σ.subject]
  exact Finset.sum_congr rfl fun i _ => h i

lemma authorityPlans_reordered {request : EvaluationRequest}
    (hfind : ∀ id, accounting'.find id = accounting.find id)
    (heligible : SameEligible eligible eligible') :
    SamePlans σ (authorityPlans request accounting eligible)
      (authorityPlans request accounting' eligible') := by
  intro i
  cases heligible with
  | error failure => rfl
  | ok hvalid hreorders =>
    show authorityPlan _ _ _ _ = authorityPlan _ _ _ _
    unfold authorityPlan
    rw [σ.subjectAt_eq, hreorders.find_eq hvalid, hfind]

include σ in
lemma observedTotal_reordered {request : EvaluationRequest}
    (hfind : ∀ id, accounting'.find id = accounting.find id)
    (heligible : SameEligible eligible eligible') :
    observedTotal (authorityPlans request accounting' eligible' : Plans reordered) =
      observedTotal (authorityPlans request accounting eligible : Plans policy) := by
  have hsame : SamePlans σ (authorityPlans request accounting eligible)
      (authorityPlans request accounting' eligible') :=
    authorityPlans_reordered σ hfind heligible
  unfold observedTotal
  rw [checkedTotal_perm (ofFn_perm σ.subject fun i => by rw [hsame i])]

lemma starvationPlans_reordered {plans : Plans policy} {plans' : Plans reordered}
    (h : SamePlans σ plans plans') (heligible : SameEligible eligible eligible') :
    SamePlans σ (starvationPlans eligible plans) (starvationPlans eligible' plans') := by
  intro i
  cases heligible with
  | error failure => exact h i
  | ok hvalid hreorders =>
    show starvationPlan _ _ _ = starvationPlan _ _ _
    unfold starvationPlan
    rw [σ.subjectAt_eq, hreorders.find_eq hvalid, h]

lemma demandSupplyPlan_reordered (hpolicy : policy.Reorders reordered)
    (hfind : ∀ id, accounting'.find id = accounting.find id) (window : ServiceWindowId)
    (subject : Subject) (plan : SubjectPlan) :
    demandSupplyPlan reordered accounting' window subject plan =
      demandSupplyPlan policy accounting window subject plan := by
  obtain ⟨-, -⟩ := hpolicy
  unfold demandSupplyPlan isCooling
  rw [hfind]

/-- The distributions give every subject and every group the same. -/
structure SameDistribution (σ : Positions policy reordered) (d : Distribution policy)
    (d' : Distribution reordered) : Prop where
  base : ∀ i, d'.base.subject (σ.subject i) = d.base.subject i
  effective : ∀ i, d'.effective.subject (σ.subject i) = d.effective.subject i
  floorBinding : ∀ i, d'.effective.floorBinding (σ.subject i) = d.effective.floorBinding i
  allocation : ∀ g, d'.effective.allocation (σ.group g) = d.effective.allocation g

lemma numberPlan_reordered (hp : ValidPolicy policy) (hp' : ValidPolicy reordered)
    (hpolicy : policy.Reorders reordered) (hfind : ∀ id, accounting'.find id = accounting.find id)
    {d : Distribution policy} {d' : Distribution reordered} (hd : SameDistribution σ d d')
    (i : SubjectIndex policy) (plan : SubjectPlan) :
    numberPlan accounting' d' (σ.subject i) plan = numberPlan accounting d i plan := by
  obtain ⟨g, hg⟩ := hp.groupOf i
  have hg' := (σ.groupOf_iff hp hp').mpr hg
  have hcarry : reordered.maxCarryUnits = policy.maxCarryUnits := by
    obtain ⟨-, -⟩ := hpolicy
    rfl
  unfold numberPlan
  dsimp only
  rw [hg, hg', σ.subjectAt_eq, hfind, hcarry, hd.base, hd.effective, hd.floorBinding]
  simp only [Option.some_or, Option.elim_some, hd.allocation]

lemma distribute_reordered (hp : ValidPolicy policy) (hp' : ValidPolicy reordered)
    (hkeys : DistinctKeys policy) {tree : GroupTree policy} {tree' : GroupTree reordered}
    (ht : IsTreeOf tree) (ht' : IsTreeOf tree') {whole : ℕ} (hwhole : whole ≤ kUInt64Max)
    {d : Distribution policy} {d' : Distribution reordered} (hd : distribute tree whole = .ok d)
    (hd' : distribute tree' whole = .ok d') : SameDistribution σ d d' := by
  obtain ⟨hspec, heff⟩ := hp.distribute_spec ht hwhole hd
  obtain ⟨hspec', heff'⟩ := hp'.distribute_spec ht' hwhole hd'
  obtain ⟨-, heffective⟩ := distribute_eq_ok.mp hd
  obtain ⟨-, heffective'⟩ := distribute_eq_ok.mp hd'
  obtain ⟨-, hsubjects⟩ := hspec.of_reorders σ hp hp' ht ht' hkeys hspec'
  obtain ⟨hgroups, heffsubjects⟩ := heff.of_reorders σ hp hp' ht ht' hkeys heff'
  refine ⟨hsubjects, heffsubjects, fun i => ?_, hgroups⟩
  obtain ⟨g, hg⟩ := hp.groupOf i
  exact (distributePass_binds hp ht heffective g).of_reorders σ hp hp' ht ht' hkeys
    (distributePass_binds hp' ht' heffective' (σ.group g)) (hgroups g)
    (ht.mem_childSubjects.mpr hg)

/-! ## The correction -/

section Corrected

variable {plans : Plans policy} {plans' : Plans reordered} (h : SamePlans σ plans plans')

include h

lemma correctionTotals_reordered : correctionTotals plans' = correctionTotals plans := by
  have htotal : ∀ f : SubjectPlan → ℕ, checkedTotal (List.ofFn fun i => f (plans' i)) 0 =
      checkedTotal (List.ofFn fun i => f (plans i)) 0 :=
    fun f => checkedTotal_perm (ofFn_perm σ.subject fun i => by rw [h])
  unfold correctionTotals
  dsimp only
  rw [htotal, htotal, htotal]

/-- The unmet demand is summed over all subjects. -/
lemma unsatisfiedDemand_reordered (hpolicy : policy.Reorders reordered) {unsatisfied unsatisfied' : ℕ}
    (hu : unsatisfiedDemand policy plans = .ok unsatisfied)
    (hu' : unsatisfiedDemand reordered plans' = .ok unsatisfied') : unsatisfied' = unsatisfied := by
  have hband : reordered.fairBandUnits = policy.fairBandUnits := by
    obtain ⟨-, -⟩ := hpolicy
    rfl
  rw [unsatisfiedDemand_eq_ok hu, unsatisfiedDemand_eq_ok hu', ← Equiv.sum_comp σ.subject]
  refine Finset.sum_congr rfl fun i _ => ?_
  rw [h, hband]

variable (hp' : ValidPolicy reordered)

include hp'

lemma demandOrder_reordered : demandOrder plans' = (demandOrder plans).map σ.subject := by
  refine (demandBefore_compares plans').sort_map
    (fun _ _ _ _ hkey => demandKey_injective hp' hkey) (fun a b => ?_)
    (map_filter_finRange σ.subject fun i => ?_)
  · unfold demandBefore
    rw [h, h, σ.subjectAt_eq, σ.subjectAt_eq]
  · rw [h]

lemma supplyOrder_reordered : supplyOrder plans' = (supplyOrder plans).map σ.subject := by
  refine (supplyBefore_compares plans').sort_map
    (fun _ _ _ _ hkey => supplyKey_injective hp' hkey) (fun a b => ?_)
    (map_filter_finRange σ.subject fun i => ?_)
  · unfold supplyBefore
    rw [h, h, σ.subjectAt_eq, σ.subjectAt_eq]
  · rw [h]

lemma grantPlans_reordered {authorized : ℕ} {granted : Plans policy} {granted' : Plans reordered}
    (hg : grantPlans plans authorized = .ok granted)
    (hg' : grantPlans plans' authorized = .ok granted') : SamePlans σ granted granted' := by
  obtain ⟨-, rfl⟩ := grantPlans_eq_ok hg
  obtain ⟨-, rfl⟩ := grantPlans_eq_ok hg'
  intro i
  dsimp only
  rw [demandOrder_reordered σ h hp', takes_map σ.subject.injective, h]
  simp only [show ∀ i, plans' (σ.subject i) = plans i from h]

lemma reducePlans_reordered {authorized : ℕ} {reduced : Plans policy} {reduced' : Plans reordered}
    (hr : reducePlans plans authorized = .ok reduced)
    (hr' : reducePlans plans' authorized = .ok reduced') : SamePlans σ reduced reduced' := by
  obtain ⟨-, rfl⟩ := reducePlans_eq_ok hr
  obtain ⟨-, rfl⟩ := reducePlans_eq_ok hr'
  intro i
  dsimp only
  rw [supplyOrder_reordered σ h hp', takes_map σ.subject.injective, h]
  simp only [show ∀ i, plans' (σ.subject i) = plans i from h]

lemma blockPlans_reordered {blocked : Bool} {held : Plans policy} {held' : Plans reordered}
    (hh : blockPlans plans blocked = .ok held) (hh' : blockPlans plans' blocked = .ok held') :
    SamePlans σ held held' := by
  intro i
  have hi := collect_eq_ok.mp hh i
  have hi' := collect_eq_ok.mp hh' (σ.subject i)
  rw [demandOrder_reordered σ h hp', h, σ.subjectAt_eq] at hi'
  simp only [List.mem_map_of_injective σ.subject.injective] at hi'
  rw [hi] at hi'
  exact (Except.ok.inj hi').symm

/-- The correction moves the same units. -/
lemma correctPlans_reordered (hpolicy : policy.Reorders reordered) {whole : ℕ} {missing : Bool}
    {result : Plans policy × CorrectionSummary} {result' : Plans reordered × CorrectionSummary}
    (hr : correctPlans whole missing plans = .ok result)
    (hr' : correctPlans whole missing plans' = .ok result') :
    SamePlans σ result.1 result'.1 ∧ result'.2 = result.2 := by
  obtain ⟨totals, htotals, hr⟩ := bind_eq_ok.mp hr
  obtain ⟨bps, hbps, hr⟩ := bind_eq_ok.mp hr
  obtain ⟨granted, hgranted, hr⟩ := bind_eq_ok.mp hr
  obtain ⟨reduced, hreduced, hr⟩ := bind_eq_ok.mp hr
  obtain ⟨unsatisfied, hunsatisfied, hr⟩ := bind_eq_ok.mp hr
  obtain ⟨held, hheld, hr⟩ := bind_eq_ok.mp hr
  obtain rfl := Except.ok.inj hr
  obtain ⟨totals', htotals', hr'⟩ := bind_eq_ok.mp hr'
  obtain ⟨bps', hbps', hr'⟩ := bind_eq_ok.mp hr'
  obtain ⟨granted', hgranted', hr'⟩ := bind_eq_ok.mp hr'
  obtain ⟨reduced', hreduced', hr'⟩ := bind_eq_ok.mp hr'
  obtain ⟨unsatisfied', hunsatisfied', hr'⟩ := bind_eq_ok.mp hr'
  obtain ⟨held', hheld', hr'⟩ := bind_eq_ok.mp hr'
  obtain rfl := Except.ok.inj hr'
  -- stage by stage the two runs compute the same
  rw [correctionTotals_reordered σ h, htotals] at htotals'
  obtain rfl := Except.ok.inj htotals'
  obtain rfl : bps = bps' := by
    obtain ⟨-, -⟩ := hpolicy
    exact Except.ok.inj (hbps.symm.trans hbps')
  have hbudget : authorizedUnits reordered totals bps = authorizedUnits policy totals bps := by
    obtain ⟨-, -⟩ := hpolicy
    rfl
  rw [hbudget] at hgranted' hreduced' hheld'
  have hgrants := grantPlans_reordered σ h hp' hgranted hgranted'
  have hreduces := reducePlans_reordered σ hgrants hp' hreduced hreduced'
  obtain rfl := unsatisfiedDemand_reordered σ hreduces hpolicy hunsatisfied hunsatisfied'
  have hholds := blockPlans_reordered σ hreduces hp' hheld hheld'
  refine ⟨fun i => ?_, ?_⟩
  · dsimp only
    rw [hholds, σ.subjectAt_eq]
    obtain ⟨-, -⟩ := hpolicy
    rfl
  · obtain ⟨-, -⟩ := hpolicy
    rfl

end Corrected

end Plans

/-! ## The decision -/

section Decision

variable {policy reordered : FairnessPolicy} {accounting accounting' : FairnessAccounting}
  {context context' : EvaluationContext}

/-- The records of an evaluation, and the plans and groups they are made of. -/
lemma evaluateWith_eq_ok {decision : FairnessDecision}
    (h : evaluateWith context policy accounting = .ok decision) :
    ∃ tree eligible, ∃ (planned : Planned policy) (states : SubjectIndex policy → SubjectFairnessState)
      (groups : GroupIndex policy → GroupFairnessState),
      build policy = .ok tree ∧ eligibility context policy = .ok eligible ∧
      plan context.request accounting tree eligible = .ok planned ∧
      (∀ i, subjectState policy (subjectAt policy i) (planned.plans i) = .ok (states i)) ∧
      (∀ g, ReportedGroup planned.distribution.effective g (groups g)) ∧
      decision.subjects = List.ofFn states ∧ decision.groups = List.ofFn groups ∧
      decision.correction = planned.correction := by
  obtain ⟨tree, htree, h⟩ := bind_eq_ok.mp h
  obtain ⟨eligible, heligible, h⟩ := bind_eq_ok.mp h
  obtain ⟨planned, hplanned, h⟩ := bind_eq_ok.mp h
  obtain ⟨states, hstates, h⟩ := bind_eq_ok.mp h
  obtain ⟨rollup, -, h⟩ := bind_eq_ok.mp h
  obtain ⟨groups, hgroups, h⟩ := bind_eq_ok.mp h
  obtain ⟨intents, -, h⟩ := bind_eq_ok.mp h
  have hdecision := Except.ok.inj h
  exact ⟨tree, eligible, planned, states, groups, ofStatus_eq_ok.mp htree, heligible, hplanned,
    collect_eq_ok.mp hstates, fun g => groupState_eq_ok (collect_eq_ok.mp hgroups g),
    by rw [← hdecision], by rw [← hdecision], by rw [← hdecision]⟩

/-- Two decisions report every subject and every group the same. -/
structure SameDecision (decision decision' : FairnessDecision) : Prop where
  subjects : decision.subjects.Perm decision'.subjects
  groups : (decision.groups.map fun g => (g.id, g.entitlementUnits)).Perm
    (decision'.groups.map fun g => (g.id, g.entitlementUnits))
  correction : decision'.correction = decision.correction

section Planned

variable {eligible eligible' : Except EvidenceFailure EvidenceSnapshot}
  (σ : Positions policy reordered) (hp : ValidPolicy policy) (hpolicy : policy.Reorders reordered)
  (hfind : ∀ id, accounting'.find id = accounting.find id)
  (heligible : SameEligible eligible eligible') {tree : GroupTree policy}
  {tree' : GroupTree reordered} (ht : IsTreeOf tree) (ht' : IsTreeOf tree')
  (hkeys : DistinctKeys policy) {request : EvaluationRequest}

include hp hpolicy hfind heligible ht ht' hkeys

/-- The numbers of every subject are the same. -/
lemma numbered_reordered {whole : ℕ} (hwhole : whole ≤ kUInt64Max) {d : Distribution policy}
    {d' : Distribution reordered} (hd : distribute tree whole = .ok d)
    (hd' : distribute tree' whole = .ok d') (i : SubjectIndex policy) :
    numberPlan accounting' d' (σ.subject i)
        (authorityPlans request accounting' eligible' (σ.subject i)) =
      numberPlan accounting d i (authorityPlans request accounting eligible i) := by
  have hp' := hpolicy.valid hp
  have hsame : authorityPlans request accounting' eligible' (σ.subject i) =
      authorityPlans request accounting eligible i :=
    authorityPlans_reordered σ hfind heligible i
  rw [hsame]
  exact numberPlan_reordered σ hp hp' hpolicy hfind
    (distribute_reordered σ hp hp' hkeys ht ht' hwhole hd hd') i _

lemma plan_reordered {planned : Planned policy} {planned' : Planned reordered}
    (h : plan request accounting tree eligible = .ok planned)
    (h' : plan request accounting' tree' eligible' = .ok planned') :
    SamePlans σ planned.plans planned'.plans ∧
      SameDistribution σ planned.distribution planned'.distribution ∧
      planned'.correction = planned.correction := by
  have hp' := hpolicy.valid hp
  obtain ⟨whole, hwhole, h⟩ := bind_eq_ok.mp h
  obtain ⟨d, hd, h⟩ := bind_eq_ok.mp h
  obtain ⟨numbered, hnumbered, h⟩ := bind_eq_ok.mp h
  obtain ⟨corrected, hcorrected, h⟩ := bind_eq_ok.mp h
  obtain rfl := Except.ok.inj h
  obtain ⟨whole', hwhole', h'⟩ := bind_eq_ok.mp h'
  obtain ⟨d', hd', h'⟩ := bind_eq_ok.mp h'
  obtain ⟨numbered', hnumbered', h'⟩ := bind_eq_ok.mp h'
  obtain ⟨corrected', hcorrected', h'⟩ := bind_eq_ok.mp h'
  obtain rfl := Except.ok.inj h'
  -- each stage of the one plan answers to the same stage of the other
  rw [observedTotal_reordered σ hfind heligible, hwhole] at hwhole'
  obtain rfl := Except.ok.inj hwhole'
  have hfits := checkedTotal_eq_some (orFail_eq_ok.mp hwhole) (Nat.zero_le _)
  have hsame : SamePlans σ numbered numbered' := by
    intro i
    have hi := numberPlans_eq_ok hnumbered' (σ.subject i)
    rw [numbered_reordered σ hp hpolicy hfind heligible ht ht' hkeys (hfits.2 ▸ hfits.1) hd hd',
      numberPlans_eq_ok hnumbered i] at hi
    exact (Except.ok.inj hi).symm
  have hstarved := starvationPlans_reordered σ hsame heligible
  have hmissing : (!eligible'.isOk) = !eligible.isOk := by
    cases heligible <;> rfl
  rw [hmissing] at hcorrected'
  obtain ⟨hplans, hcorrection⟩ := correctPlans_reordered σ (fun i => by
    rw [σ.subjectAt_eq, hstarved, demandSupplyPlan_reordered hpolicy hfind]) hp' hpolicy hcorrected
    hcorrected'
  exact ⟨hplans, distribute_reordered σ hp hp' hkeys ht ht' (hfits.2 ▸ hfits.1) hd hd',
    hcorrection⟩

end Planned

variable (hp : ValidPolicy policy) (hkeys : DistinctKeys policy)
  (hevidence : ∀ e ∈ context.evidence, ValidEvidence e)
  (hids : (accounting.subjects.map (·.id)).Nodup)
  (h : context.Reorders policy reordered accounting accounting' context')

include hp hkeys hevidence hids h

/-- The records are the same. -/
theorem evaluateWith_reordered {decision decision' : FairnessDecision}
    (hd : evaluateWith context policy accounting = .ok decision)
    (hd' : evaluateWith context' reordered accounting' = .ok decision') :
    SameDecision decision decision' := by
  obtain ⟨tree, eligible, planned, states, groups, htree, heligible, hplanned, hstates, hgroups,
    hsubjects_eq, hgroups_eq, hcorrection_eq⟩ := evaluateWith_eq_ok hd
  obtain ⟨tree', eligible', planned', states', groups', htree', heligible', hplanned', hstates',
    hgroups', hsubjects_eq', hgroups_eq', hcorrection_eq'⟩ := evaluateWith_eq_ok hd'
  obtain ⟨eligible'', helig, hsame⟩ := h.eligibility_eq hevidence heligible
  obtain rfl := Except.ok.inj (heligible'.symm.trans helig)
  obtain ⟨hpolicy, haccounting, -⟩ := h
  obtain ⟨σ, -⟩ := hpolicy.exists_positions hp
  obtain ⟨hplans, hdistribution, hcorrection⟩ := plan_reordered σ hp hpolicy
    (haccounting.find_eq hids) hsame (IsTreeOf.of_build htree) (IsTreeOf.of_build htree') hkeys
    hplanned hplanned'
  -- reports are made from the plans alone, subject by subject
  have hstate : ∀ i, states' (σ.subject i) = states i := by
    intro i
    have hi := hstates' (σ.subject i)
    rw [σ.subjectAt_eq, hplans] at hi
    have hi' : subjectState policy (subjectAt policy i) (planned.plans i) =
        .ok (states' (σ.subject i)) := by
      obtain ⟨-, -⟩ := hpolicy
      exact hi
    exact Except.ok.inj (hi'.symm.trans (hstates i))
  refine ⟨?_, ?_, ?_⟩
  · rw [hsubjects_eq, hsubjects_eq']
    exact (ofFn_perm σ.subject hstate).symm
  · rw [hgroups_eq, hgroups_eq', List.map_ofFn, List.map_ofFn]
    refine (ofFn_perm σ.group fun g => ?_).symm
    rw [Function.comp_apply, Function.comp_apply, (hgroups g).id, (hgroups' (σ.group g)).id,
      (hgroups g).entitlement, (hgroups' (σ.group g)).entitlement, σ.groupAt_eq,
      hdistribution.allocation]
  · rw [hcorrection_eq, hcorrection_eq', hcorrection]

/-- What returns in one order returns in every order. -/
theorem evaluateWith_returns_reordered {decision : FairnessDecision}
    (hd : evaluateWith context policy accounting = .ok decision) :
    ∃ decision', evaluateWith context' reordered accounting' = .ok decision' := by
  obtain ⟨tree, eligible, planned, _, _, htree, heligible, hplanned, -⟩ := evaluateWith_eq_ok hd
  obtain ⟨eligible', heligible', hsame⟩ := h.eligibility_eq hevidence heligible
  obtain ⟨hpolicy, haccounting, -⟩ := h
  obtain ⟨σ, -⟩ := hpolicy.exists_positions hp
  have hp' := hpolicy.valid hp
  have hfind := haccounting.find_eq hids
  obtain ⟨whole, hwhole, hplanned⟩ := bind_eq_ok.mp hplanned
  obtain ⟨d, hdistribution, hplanned⟩ := bind_eq_ok.mp hplanned
  obtain ⟨numbered, hnumbered, -⟩ := bind_eq_ok.mp hplanned
  -- the other order reads the same snapshot, so what was served is bounded there as well
  have hserved : ∀ i : SubjectIndex reordered,
      (authorityPlans context.request accounting' eligible' i).served ≤ kMaxServiceUnits := by
    refine authorityPlans_served_le fun e he => ?_
    cases hsame with
    | error failure => cases he
    | ok hvalid hreorders => exact Except.ok.inj he ▸ hreorders.valid hvalid
  obtain ⟨hobserved, hle⟩ := observedTotal_ok hp'.subjects_le hserved
    fun i => authorityPlans_served_eq_zero
  have hsum := hobserved
  rw [observedTotal_reordered σ hfind hsame, hwhole] at hsum
  rw [← Except.ok.inj hsum] at hobserved hle
  have hword : kMaxSubjects * kMaxServiceUnits ≤ kUInt64Max := by decide
  obtain ⟨tree', d', htree', ht', hd', hbase, heffective⟩ :=
    hp'.distribute_ok (le_trans hle hword)
  -- its numbers are those of the first order, at the positions moved back
  have hnumbered' : numberPlans accounting' d'
      (authorityPlans context.request accounting' eligible') =
        .ok fun j => numbered (σ.subject.symm j) := by
    refine collect_eq_ok.mpr fun j => ?_
    obtain ⟨i, rfl⟩ := σ.subject.surjective j
    rw [numbered_reordered σ hp hpolicy hfind hsame (IsTreeOf.of_build htree) ht' hkeys
      (le_trans hle hword) hdistribution hd', numberPlans_eq_ok hnumbered i,
      Equiv.symm_apply_apply]
  exact evaluateWith_ok hp' htree' ht' heligible' hserved hle hobserved hd' hbase heffective
    hnumbered'

end Decision

/-! ## Ties -/

/-- Every order of the allocator separates its competitors. -/
def Separates (children : List AllocationInput) : Prop :=
  ∀ a b, a ≠ b →
    (∀ share, donorBefore children share a b = true ∨ donorBefore children share b a = true) ∧
    (obligationBefore children a b = true ∨ obligationBefore children b a = true) ∧
    ∀ residue, residueBefore children residue a b = true ∨
      residueBefore children residue b a = true

/-- No sort of an evaluation on the policy leaves a tie to the position. -/
structure TieBreaksByIdentity (policy : FairnessPolicy) : Prop where
  roots : ∀ tree, build policy = .ok tree →
    Separates (tree.roots.map fun r => groupInput (groupAt policy r))
  nodes : ∀ tree, build policy = .ok tree → ∀ useModifier node,
    Separates (inputsFor tree useModifier node)
  demand : ∀ (plans : Plans policy) a b, a ≠ b →
    demandBefore plans a b = true ∨ demandBefore plans b a = true
  supply : ∀ (plans : Plans policy) a b, a ≠ b →
    supplyBefore plans a b = true ∨ supplyBefore plans b a = true

/-- A comparator by a key that tells the elements apart separates them. -/
lemma compares_separates {n : ℕ} {κ : Type} [LinearOrder κ] {before : Fin n → Fin n → Bool}
    {key : Fin n → κ} (h : Compares before key) {a b : Fin n} (hne : key a ≠ key b) :
    before a b = true ∨ before b a = true := by
  rw [h a b, h b a, decide_eq_true_iff, decide_eq_true_iff]
  exact lt_or_gt_of_ne hne

lemma separates_iff {children : List AllocationInput} :
    Separates children ↔ (children.map (·.key)).Nodup := by
  constructor
  · intro h
    have hmap : children.map (·.key) = List.ofFn fun i => (childAt children i).key := by
      refine List.ext_getElem (by simp) fun k h₁ h₂ => ?_
      simp
    rw [hmap, List.nodup_ofFn]
    intro a b hkey
    by_contra hne
    -- with equal remainders nothing but the key is left to decide
    have htie : ∀ c d : Fin children.length, (childAt children c).key = (childAt children d).key →
        residueBefore children (fun _ => 0) c d = false := by
      intro c d hcd
      have hlt : ¬ (childAt children c).key < (childAt children d).key := by
        rw [hcd]
        exact UInt64.lt_irrefl _
      unfold residueBefore
      rw [if_neg (by simp), decide_eq_false hlt]
    rcases (h a b hne).2.2 fun _ => 0 with hbefore | hbefore
    · rw [htie a b hkey] at hbefore
      cases hbefore
    · rw [htie b a hkey.symm] at hbefore
      cases hbefore
  · intro hkeys a b hne
    refine ⟨fun share => compares_separates (donorBefore_compares children share) fun heq => hne ?_,
      compares_separates (obligationBefore_compares children) fun heq => hne ?_,
      fun residue => compares_separates (residueBefore_compares children residue) fun heq => hne ?_⟩
    · exact childKey_injective hkeys (congrArg (fun k => (ofLex (ofLex k).2).2) heq)
    · exact childKey_injective hkeys (congrArg (fun k => (ofLex (ofLex k).2).2) heq)
    · exact childKey_injective hkeys (congrArg (fun k => (ofLex k).2) heq)

/-- The competitors of every node have different keys exactly when those of the subjects and
child groups of every group differ. -/
lemma tieBreaksByIdentity_iff {policy : FairnessPolicy} (hp : ValidPolicy policy) :
    TieBreaksByIdentity policy ↔ DistinctKeys policy := by
  constructor
  · intro h
    obtain ⟨tree, htree, ht⟩ := hp.build_ok
    -- the keys at a node are those of its child groups and of its subjects
    have hnodup : ∀ node, ((tree.childGroups node).map
          ((·.key) ∘ fun c => groupInput (groupAt policy c)) ++
        (tree.childSubjects node).map
          ((·.key) ∘ fun s => subjectInput true (subjectAt policy s))).Nodup := by
      intro node
      have hkeys := separates_iff.mp (h.nodes tree htree true node)
      rwa [inputsFor, List.map_append, List.map_map, List.map_map] at hkeys
    have hchild : ∀ {s t : SubjectIndex policy}, (subjectAt policy s).group =
        (subjectAt policy t).group → ∃ node, s ∈ tree.childSubjects node ∧
          t ∈ tree.childSubjects node := by
      intro s t hgroup
      obtain ⟨node, hnode⟩ := hp.groupOf s
      exact ⟨node, ht.mem_childSubjects.mpr hnode, ht.mem_childSubjects.mpr (hgroup ▸ hnode)⟩
    constructor
    · intro s hs t ht' hgroup hkey
      obtain ⟨i, rfl⟩ := exists_subjectAt hs
      obtain ⟨j, rfl⟩ := exists_subjectAt ht'
      obtain ⟨node, hi, hj⟩ := hchild hgroup
      rw [List.inj_on_of_nodup_map (List.nodup_append.mp (hnodup node)).2.1 hi hj hkey]
    · intro g hg s hs hparent hkey
      obtain ⟨c, rfl⟩ := exists_groupAt hg
      obtain ⟨i, rfl⟩ := exists_subjectAt hs
      obtain ⟨node, hnode⟩ := hp.groupOf i
      have hc : c ∈ tree.childGroups node := by
        rw [ht.mem_childGroups, hp.parentOf_iff, hparent]
        exact hp.byId_iff.mp hnode
      exact (List.nodup_append.mp (hnodup node)).2.2 _ (List.mem_map_of_mem hc) _
        (List.mem_map_of_mem (ht.mem_childSubjects.mpr hnode)) hkey
  · intro hkeys
    refine ⟨fun tree htree => ?_, fun tree htree useModifier node => ?_, fun plans a b hne => ?_,
      fun plans a b hne => ?_⟩
    · exact separates_iff.mpr (rootKeys_nodup hp (IsTreeOf.of_build htree))
    · exact separates_iff.mpr (inputKeys_nodup hp (IsTreeOf.of_build htree) hkeys useModifier node)
    · exact compares_separates (demandBefore_compares plans) ((demandKey_injective hp).ne hne)
    · exact compares_separates (supplyBefore_compares plans) ((supplyKey_injective hp).ne hne)

/-- The order of the declarations never matters: no tie is left to the position, and reordered
inputs give every subject and every group the same. -/
structure OrderFree (context : EvaluationContext) (policy : FairnessPolicy)
    (accounting : FairnessAccounting) : Prop where
  tieBreaks : TieBreaksByIdentity policy
  decisions : ∀ reordered accounting' context',
    context.Reorders policy reordered accounting accounting' context' →
    ∀ decision, evaluateFairness context = .ok decision →
      ∃ decision', evaluateFairness context' = .ok decision' ∧ SameDecision decision decision'

/-- On validated inputs the order of the declarations never matters exactly when no two siblings
have the same composite key. -/
theorem orderFree_iff {context : EvaluationContext} {policy : FairnessPolicy}
    {accounting : FairnessAccounting} (hpolicy : context.policy = some policy)
    (haccounting : context.accounting = some accounting)
    (hvalid : validatePolicy policy = .ok ())
    (hevidence : ∀ evidence ∈ context.evidence, validateEvidence evidence = .ok ())
    (hids : (accounting.subjects.map (·.id)).Nodup) :
    OrderFree context policy accounting ↔ DistinctKeys policy := by
  have hp := ValidPolicy.of_ok hvalid
  have hev : ∀ e ∈ context.evidence, ValidEvidence e := fun e he => .of_ok (hevidence e he)
  refine ⟨fun h => (tieBreaksByIdentity_iff hp).mp h.tieBreaks,
    fun hkeys => ⟨(tieBreaksByIdentity_iff hp).mpr hkeys, ?_⟩⟩
  intro reordered accounting' context' h decision hd
  have hrun : evaluateFairness context = evaluateWith context policy accounting := by
    rw [evaluateFairness, hpolicy, haccounting]
  have hrun' : evaluateFairness context' = evaluateWith context' reordered accounting' := by
    obtain ⟨-, -, -⟩ := h
    rfl
  rw [hrun] at hd
  obtain ⟨decision', hd'⟩ := evaluateWith_returns_reordered hp hkeys hev hids h hd
  exact ⟨decision', hrun'.trans hd', evaluateWith_reordered hp hkeys hev hids h hd hd'⟩

theorem orderFree_iff_pair :
    OrderFree (pairContext [{ id := ⟨1⟩, generation := ⟨1⟩, servedUnits := 10 }]) pairPolicy {} ↔
      DistinctKeys pairPolicy :=
  orderFree_iff rfl rfl (by decide +kernel) (by decide +kernel) (by decide)

/-- The identity that differs from 5 in its highest bit. -/
def twinId : UInt64 := 0x8000000000000005

/-- Two subjects of one group, in either order. -/
def tiedPolicy (first second : UInt64) : FairnessPolicy :=
  { pairPolicy with
    subjects :=
      [{ id := ⟨first⟩, generation := ⟨1⟩, group := ⟨1⟩ },
        { id := ⟨second⟩, generation := ⟨1⟩, group := ⟨1⟩ }] }

/-- The evaluation of a window in which an odd number of units was served. -/
def tiedContext (policy : FairnessPolicy) : EvaluationContext :=
  { pairContext [{ id := ⟨5⟩, generation := ⟨1⟩, servedUnits := 7 },
      { id := ⟨twinId⟩, generation := ⟨1⟩, servedUnits := 4 }] with policy := some policy }

/-- What a subject is entitled to. -/
def entitlementOf (id : UInt64) (decision : FairnessDecision) : Option ℕ :=
  (decision.subjects.find? fun state => state.id = ⟨id⟩).map (·.entitlementUnits)

/-- The odd unit goes to whichever of the two subjects is declared first. -/
theorem not_orderFree :
    validatePolicy (tiedPolicy 5 twinId) = .ok () ∧
    (∀ evidence ∈ (tiedContext (tiedPolicy 5 twinId)).evidence,
      validateEvidence evidence = .ok ()) ∧
    (tiedPolicy 5 twinId).Reorders (tiedPolicy twinId 5) ∧
    (∃ decision, evaluateFairness (tiedContext (tiedPolicy 5 twinId)) = .ok decision ∧
      entitlementOf 5 decision = some 6) ∧
    ∃ decision, evaluateFairness (tiedContext (tiedPolicy twinId 5)) = .ok decision ∧
      entitlementOf 5 decision = some 5 := by
  have hfirst : (evaluateFairness (tiedContext (tiedPolicy 5 twinId))).toOption.any
      (fun decision => entitlementOf 5 decision = some 6) = true := by
    decide +kernel
  have hsecond : (evaluateFairness (tiedContext (tiedPolicy twinId 5))).toOption.any
      (fun decision => entitlementOf 5 decision = some 5) = true := by
    decide +kernel
  obtain ⟨d, hd, hsix⟩ := exists_ok_of_any hfirst
  obtain ⟨d', hd', hfive⟩ := exists_ok_of_any hsecond
  exact ⟨by decide +kernel, by decide +kernel, ⟨.refl _, List.Perm.swap _ _ _⟩,
    ⟨d, hd, of_decide_eq_true hsix⟩, d', hd', of_decide_eq_true hfive⟩

end FairnessGovernor
