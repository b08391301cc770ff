/-
# Floors that are not to be enforced

A policy may say that its guarantee floors are not to be enforced, so that entitlement is the
share by weight alone.  The distributor does not look: it enforces them all the same, and the
entitlements are those by weight where the floors are idle.
-/
import FairnessGovernor.Eval.DeclarationOrder
import FairnessGovernor.Eval.Redistribution
import FairnessGovernor.Eval.Unfloored

namespace FairnessGovernor

open Forest

/-! ## The two passes -/

/-- The competitors of a node hold what the closed form says. -/
lemma NodeBalance.eq_allotted {policy : FairnessPolicy} {tree : GroupTree policy}
    {useModifier : Bool} {node : GroupIndex policy} {pass : PassState policy}
    (h : NodeBalance tree useModifier node pass) (hnode : pass.allocation node ≤ kUInt64Max) :
    (tree.childGroups node).map pass.allocation ++ (tree.childSubjects node).map pass.subject =
      List.ofFn (allotted (inputsFor tree useModifier node) (pass.allocation node)) := by
  obtain ⟨result, hresult, hgroups, hsubjects⟩ := h
  rw [hgroups, hsubjects, List.take_append_drop,
    (allocateWhole_allotted hnode hresult).allocations]

/-- So do the roots. -/
lemma PassSpec.roots_allotted {policy : FairnessPolicy} {tree : GroupTree policy}
    {useModifier : Bool} {whole : ℕ} {pass : PassState policy}
    (h : PassSpec tree useModifier whole pass) (hwhole : whole ≤ kUInt64Max) :
    tree.roots.map pass.allocation =
      List.ofFn (allotted (tree.roots.map fun r => groupInput (groupAt policy r)) whole) := by
  obtain ⟨result, hresult, hmap⟩ := h.roots
  rw [hmap, (allocateWhole_allotted hwhole hresult).allocations]

section Passes

variable {policy : FairnessPolicy} {tree : GroupTree policy} {pure : GroupTree policy.unfloored}
  {whole : ℕ} {pass : PassState policy} {purePass : PassState policy.unfloored}
  (hp : ValidPolicy policy) (ht : IsTreeOf tree) (ht' : IsTreeOf pure)
  (hwhole : whole ≤ kUInt64Max) (hpure : PassSpec pure true whole purePass)

/-- What the groups hold without the floors. -/
def heldWithout (purePass : PassState policy.unfloored) (i : GroupIndex policy) : ℕ :=
  purePass.allocation (unflooredGroup i)

include hp ht ht' hwhole hpure

/-- Without the floors every node is split by weight alone. -/
lemma node_weighed (node : GroupIndex policy) :
    (tree.childGroups node).map (heldWithout purePass) ++
        (tree.childSubjects node).map (fun s => purePass.subject (unflooredSubject s)) =
      List.ofFn (weighedAt (inputsFor tree true node) (heldWithout purePass node)) := by
  have hnode := (hpure.balanced (unflooredGroup node)).eq_allotted
    (le_trans (hpure.allocation_le _) hwhole)
  rw [childGroups_unfloored hp ht ht', childSubjects_unfloored hp ht ht', List.map_map,
    List.map_map, inputsFor_unfloored hp ht ht', allotted_unfloored] at hnode
  exact hnode

lemma weighedForest_unfloored : WeighedForest tree whole (heldWithout purePass) := by
  refine ⟨?_, fun node => ?_⟩
  · have hroots := hpure.roots_allotted hwhole
    rw [rootInputs_unfloored hp ht ht', allotted_unfloored, roots_unfloored hp ht ht',
      List.map_map] at hroots
    exact hroots
  · rw [← node_weighed hp ht ht' hwhole hpure, List.take_append_of_le_length (by simp),
      List.take_of_length_le (by simp)]

variable (hpass : PassSpec tree true whole pass)

include hpass

/-- Idle floors leave every group and every subject with what the weights give. -/
lemma subjects_eq_of_idle (htree : build policy = .ok tree) (hidle : FloorsIdle policy whole)
    (s : SubjectIndex policy) : pass.subject s = purePass.subject (unflooredSubject s) := by
  obtain ⟨tree', held, htree', hheld, hroots, hnodes⟩ := hidle
  obtain rfl : tree = tree' := Except.ok.inj (htree.symm.trans htree')
  have hle : ∀ i, pass.allocation i ≤ kUInt64Max := fun i => (hpass.allocation_le i).trans hwhole
  have hweighed := weighedForest_unfloored hp ht ht' hwhole hpure
  -- The two trees are walked down together: an idle floor hands a group the same with and
  -- without it, so its children divide the same capacity in both.
  have hsame : ∀ i, pass.allocation i = held i ∧ heldWithout purePass i = held i := by
    refine ht.isForest.induction (fun i hroot => ?_) fun p c hparent hp => ?_
    · have h := hpass.roots_allotted hwhole
      rw [allotted_eq_weighed_iff.mpr hroots, ← hheld.roots, List.map_inj_left] at h
      have h' := hweighed.roots.trans hheld.roots.symm
      rw [List.map_inj_left] at h'
      exact ⟨h i (ht.mem_roots.mpr hroot), h' i (ht.mem_roots.mpr hroot)⟩
    · have hc := ht.mem_childGroups.mpr hparent
      have h := congrArg (List.take (tree.childGroups p).length)
        ((hpass.balanced p).eq_allotted (hle p))
      rw [List.take_append_of_le_length (by simp), List.take_of_length_le (by simp), hp.1,
        allotted_eq_weighed_iff.mpr (hnodes p), ← hheld.nodes, List.map_inj_left] at h
      have h' := hweighed.nodes p
      rw [hp.2, ← hheld.nodes, List.map_inj_left] at h'
      exact ⟨h c hc, h' c hc⟩
  -- A subject then gets its share of what its group holds in both.
  obtain ⟨g, hg⟩ := hp.groupOf s
  have h := (hpass.balanced g).eq_allotted (hle g)
  have h' := node_weighed hp ht ht' hwhole hpure g
  rw [(hsame g).1, allotted_eq_weighed_iff.mpr (hnodes g)] at h
  rw [(hsame g).2, ← h] at h'
  have hsubjects := (List.append_inj h' (by simp)).2
  rw [List.map_inj_left] at hsubjects
  exact (hsubjects s (ht.mem_childSubjects.mpr hg)).symm

/-- Floors that leave every subject alone are idle. -/
lemma idle_of_subjects_eq (htree : build policy = .ok tree)
    (h : ∀ s, pass.subject s = purePass.subject (unflooredSubject s)) :
    FloorsIdle policy whole := by
  have hle : ∀ i, pass.allocation i ≤ kUInt64Max := fun i => (hpass.allocation_le i).trans hwhole
  have hweighed := weighedForest_unfloored hp ht ht' hwhole hpure
  -- what a group holds is what the subjects below it hold
  have hheld : pass.allocation = heldWithout purePass := by
    choose owner howner using hp.groupOf
    have hpasses : PassesOn (parentOf policy) owner (heldWithout purePass) pass.subject := by
      intro i
      have hsum := (hpure.balanced (unflooredGroup i)).sum_lists
      rw [childGroups_unfloored hp ht ht', childSubjects_unfloored hp ht ht', List.map_map,
        List.map_map] at hsum
      refine Eq.trans (congrArg₂ (· + ·) ?_ ?_) hsum
      · rw [ht.childGroups_eq]
        exact (sum_map_filter_finRange _ _).symm
      · rw [ht.childSubjects_eq]
        simp only [howner, Option.some.injEq, h]
        exact (sum_map_filter_finRange _ _).symm
    exact held_eq_of_leaves ht.isForest (hpass.passesOn ht howner) hpasses
  refine ⟨tree, heldWithout purePass, htree, hweighed, ?_, fun node => ?_⟩
  · rw [← allotted_eq_weighed_iff]
    refine List.ofFn_injective ?_
    rw [← hpass.roots_allotted hwhole, hheld]
    exact hweighed.roots
  · rw [← allotted_eq_weighed_iff]
    refine List.ofFn_injective ?_
    rw [← node_weighed hp ht ht' hwhole hpure, ← hheld,
      ← (hpass.balanced node).eq_allotted (hle node)]
    congr 1
    exact List.map_congr_left fun s _ => h s

end Passes

/-! ## The evaluation -/

/-- Every subject with authority has the entitlement that the other decision gives it. -/
def EntitledAlike (decision other : FairnessDecision) : Prop :=
  ∀ state ∈ decision.subjects, state.hasAuthority = true →
    ∃ state' ∈ other.subjects, state'.id = state.id ∧
      state'.entitlementUnits = state.entitlementUnits

/-- The context with the policy without its floors. -/
def EvaluationContext.unfloored (context : EvaluationContext) (policy : FairnessPolicy) :
    EvaluationContext :=
  { context with policy := some policy.unfloored }

/-- The floors are idle in the split of what the evidence covers. -/
def FloorsIdleIn (context : EvaluationContext) (policy : FairnessPolicy)
    (accounting : FairnessAccounting) : Prop :=
  ∃ plans whole, coverage context policy accounting = .ok plans ∧
    observedTotal plans = .ok whole ∧ FloorsIdle policy whole

section Evaluation

variable {context : EvaluationContext} {policy : FairnessPolicy} {accounting : FairnessAccounting}
  {eligible : Except EvidenceFailure EvidenceSnapshot}

/-- Eligibility does not look at floors. -/
lemma eligibility_unfloored :
    eligibility (context.unfloored policy) policy.unfloored = eligibility context policy := rfl

/-- Neither does authority. -/
lemma authorityPlans_unfloored (request : EvaluationRequest) (s : SubjectIndex policy) :
    (authorityPlans request accounting eligible : Plans policy.unfloored) (unflooredSubject s) =
      (authorityPlans request accounting eligible : Plans policy) s := by
  cases eligible with
  | error failure => rfl
  | ok evidence =>
    show authorityPlan _ _ _ (subjectAt policy.unfloored (unflooredSubject s)) = _
    rw [subjectAt_unfloored]
    rfl

/-- So the same service is redistributed. -/
lemma observedTotal_unfloored (request : EvaluationRequest) :
    observedTotal (authorityPlans request accounting eligible : Plans policy.unfloored) =
      observedTotal (authorityPlans request accounting eligible : Plans policy) := by
  have hserved : ∀ s : SubjectIndex policy,
      (if ((authorityPlans request accounting eligible : Plans policy.unfloored)
          (unflooredSubject s)).hasAuthority then
        ((authorityPlans request accounting eligible : Plans policy.unfloored)
          (unflooredSubject s)).served else 0) =
      if ((authorityPlans request accounting eligible : Plans policy) s).hasAuthority then
        ((authorityPlans request accounting eligible : Plans policy) s).served else 0 := by
    intro s
    rw [authorityPlans_unfloored]
  exact congrArg _
    (checkedTotal_perm (ofFn_perm (finCongr (List.length_map Subject.unfloored).symm) hserved))

variable {tree : GroupTree policy} {pure : GroupTree policy.unfloored} {whole whole' : ℕ}
  {numbered : Plans policy} {planned : Planned policy} {numbered' : Plans policy.unfloored}
  {planned' : Planned policy.unfloored} {states : SubjectIndex policy → SubjectFairnessState}
  {states' : SubjectIndex policy.unfloored → SubjectFairnessState}
  {decision decision' : FairnessDecision}
  {eligible' : Except EvidenceFailure EvidenceSnapshot}

/-- The split of an evaluation is the one in which the floors are idle or not. -/
lemma EvaluationStages.floorsIdleIn_iff
    (hs : EvaluationStages context policy accounting tree eligible whole numbered planned) :
    FloorsIdleIn context policy accounting ↔ FloorsIdle policy whole := by
  constructor
  · rintro ⟨plans, total, hplans, htotal, h⟩
    obtain rfl := Except.ok.inj (hs.coverage_eq.symm.trans hplans)
    obtain rfl := Except.ok.inj (hs.whole_eq.symm.trans htotal)
    exact h
  · exact fun h => ⟨_, whole, hs.coverage_eq, hs.whole_eq, h⟩

/-- The evaluation without floors has the same evidence and splits the same whole. -/
lemma EvaluationStages.unfloored_same
    (hs : EvaluationStages context policy accounting tree eligible whole numbered planned)
    (hs' : EvaluationStages (context.unfloored policy) policy.unfloored accounting pure eligible'
      whole' numbered' planned') : eligible = eligible' ∧ whole = whole' := by
  obtain rfl : eligible = eligible' := by
    have h := hs'.eligible_eq
    rw [eligibility_unfloored, hs.eligible_eq] at h
    exact Except.ok.inj h
  have h := hs'.whole_eq
  rw [observedTotal_unfloored] at h
  exact ⟨rfl, Except.ok.inj (hs.whole_eq.symm.trans h)⟩

/-- Entitlements agree where the subjects with authority hold the same in both distributions. -/
lemma entitledAlike_iff (hp : ValidPolicy policy)
    (hs : EvaluationStages context policy accounting tree eligible whole numbered planned)
    (hd : Evaluated context policy accounting planned states decision)
    (hs' : EvaluationStages (context.unfloored policy) policy.unfloored accounting pure eligible'
      whole' numbered' planned')
    (hd' : Evaluated (context.unfloored policy) policy.unfloored accounting planned' states'
      decision') :
    EntitledAlike decision decision' ↔ ∀ s, (planned.plans s).hasAuthority = true →
      planned.distribution.effective.subject s =
        planned'.distribution.effective.subject (unflooredSubject s) := by
  obtain ⟨rfl, -⟩ := hs.unfloored_same hs'
  have hauthority : ∀ s, (planned'.plans (unflooredSubject s)).hasAuthority =
      (planned.plans s).hasAuthority := by
    intro s
    rw [hs'.hasAuthority, hs.hasAuthority]
    exact congrArg (·.hasAuthority) (authorityPlans_unfloored context.request s)
  -- the two reports agree exactly where the two distributions do
  have hentitled : ∀ s, (planned.plans s).hasAuthority = true →
      ((states' (unflooredSubject s)).entitlementUnits = (states s).entitlementUnits ↔
        planned.distribution.effective.subject s =
          planned'.distribution.effective.subject (unflooredSubject s)) := by
    intro s hauth
    rw [(hd'.reported _).entitlement, (hd.reported _).entitlement, hs.entitlement hauth,
      hs'.entitlement ((hauthority s).trans hauth)]
    exact eq_comm
  have hid : ∀ s, (states' (unflooredSubject s)).id = (states s).id := by
    intro s
    rw [(hd'.reported _).id, (hd.reported _).id, subjectAt_unfloored]
    rfl
  constructor
  · intro h s hauth
    obtain ⟨state', hmem, hsame, hunits⟩ := h (states s) (hd.mem_iff.mpr ⟨s, rfl⟩)
      ((hd.reported s).hasAuthority.trans hauth)
    obtain ⟨t, rfl⟩ := hd'.mem_iff.mp hmem
    -- identities are distinct, so the state found is the one at the same position
    have ht : t = unflooredSubject s := by
      refine hp.unfloored.subjectAt_injective ?_
      rw [← (hd'.reported t).id, hsame, ← hid, (hd'.reported _).id]
    rw [ht] at hunits
    exact (hentitled s hauth).mp hunits
  · intro h state hmem hauth
    obtain ⟨s, rfl⟩ := hd.mem_iff.mp hmem
    have hauth' : (planned.plans s).hasAuthority = true := by
      rw [← (hd.reported s).hasAuthority]
      exact hauth
    exact ⟨states' (unflooredSubject s), hd'.mem_iff.mpr ⟨_, rfl⟩, hid s,
      (hentitled s hauth').mpr (h s hauth')⟩

end Evaluation

/-- Whatever the policy says about enforcing its floors: idle floors leave every entitlement as it
is without them, and where all subjects have authority only idle floors do. -/
theorem unenforced_iff {context : EvaluationContext} {policy : FairnessPolicy}
    {accounting : FairnessAccounting} {decision pureDecision : FairnessDecision}
    (hpolicy : context.policy = some policy) (haccounting : context.accounting = some accounting)
    (hvalid : validatePolicy policy = .ok ()) (h : evaluateFairness context = .ok decision)
    (hpure : evaluateFairness (context.unfloored policy) = .ok pureDecision) :
    (FloorsIdleIn context policy accounting → EntitledAlike decision pureDecision) ∧
      ((∀ state ∈ decision.subjects, state.hasAuthority = true) →
        (EntitledAlike decision pureDecision ↔ FloorsIdleIn context policy accounting)) := by
  obtain ⟨tree, eligible, whole, numbered, planned, states, hs, hd, -⟩ :=
    evaluateFairness_stages hpolicy haccounting h
  obtain ⟨pure, eligible', whole', numbered', planned', states', hs', hd', -⟩ :=
    evaluateFairness_stages (show (context.unfloored policy).policy = some policy.unfloored from rfl)
      haccounting hpure
  have hp := ValidPolicy.of_ok hvalid
  have halike := entitledAlike_iff hp hs hd hs' hd'
  obtain ⟨rfl, rfl⟩ := hs.unfloored_same hs'
  obtain ⟨ht, hspec⟩ := hs.split hp
  obtain ⟨ht', hspec'⟩ := hs'.split hp.unfloored
  rw [hs.floorsIdleIn_iff, halike]
  have hidleEntitled : FloorsIdle policy whole → ∀ s, (planned.plans s).hasAuthority = true →
      planned.distribution.effective.subject s =
        planned'.distribution.effective.subject (unflooredSubject s) :=
    fun h s _ => subjects_eq_of_idle hp ht ht' hs.whole_le hspec' hspec hs.tree_eq h s
  refine ⟨hidleEntitled, fun hall => ⟨fun h => ?_, hidleEntitled⟩⟩
  refine idle_of_subjects_eq hp ht ht' hs.whole_le hspec' hspec hs.tree_eq fun s => h s ?_
  rw [← (hd.reported s).hasAuthority]
  exact hall _ (hd.mem_iff.mpr ⟨s, rfl⟩)

/-- Two subjects of equal weight, the second with a floor, under a policy that does not enforce
floors. -/
def unenforcedPolicy (floor : UInt64) : FairnessPolicy :=
  { pairPolicy with
    enforceGuaranteeFloors := false
    subjects :=
      [{ id := ⟨1⟩, generation := ⟨1⟩, group := ⟨1⟩ },
        { id := ⟨2⟩, generation := ⟨1⟩, group := ⟨1⟩, guaranteeFloor := floor }] }

/-- The evaluation of ten units of service under that policy. -/
def unenforcedContext (floor : UInt64) : EvaluationContext :=
  { pairContext [{ id := ⟨1⟩, generation := ⟨1⟩, servedUnits := 10 },
      { id := ⟨2⟩, generation := ⟨1⟩, servedUnits := 0 }] with
    policy := some (unenforcedPolicy floor) }

theorem unenforced_iff_pair : ∃ decision pureDecision,
    evaluateFairness (unenforcedContext 4) = .ok decision ∧
    evaluateFairness ((unenforcedContext 4).unfloored (unenforcedPolicy 4)) = .ok pureDecision ∧
    (FloorsIdleIn (unenforcedContext 4) (unenforcedPolicy 4) {} →
        EntitledAlike decision pureDecision) ∧
      ((∀ state ∈ decision.subjects, state.hasAuthority = true) →
        (EntitledAlike decision pureDecision ↔
          FloorsIdleIn (unenforcedContext 4) (unenforcedPolicy 4) {})) := by
  have hrun : (evaluateFairness (unenforcedContext 4)).toOption.any (fun _ => true) = true := by
    decide +kernel
  have hpure : (evaluateFairness ((unenforcedContext 4).unfloored
      (unenforcedPolicy 4))).toOption.any (fun _ => true) = true := by
    decide +kernel
  obtain ⟨decision, hdecision, -⟩ := exists_ok_of_any hrun
  obtain ⟨pureDecision, hpureDecision, -⟩ := exists_ok_of_any hpure
  exact ⟨decision, pureDecision, hdecision, hpureDecision,
    unenforced_iff rfl rfl (by decide +kernel) hdecision hpureDecision⟩

/-- A floor of eight units of ten is enforced although the policy says that it is not to be. -/
theorem not_unenforced :
    validatePolicy (unenforcedPolicy 8) = .ok () ∧
    (unenforcedPolicy 8).enforceGuaranteeFloors = false ∧
    (∀ e ∈ (unenforcedContext 8).evidence, validateEvidence e = .ok ()) ∧
    ∃ decision pureDecision, evaluateFairness (unenforcedContext 8) = .ok decision ∧
      evaluateFairness ((unenforcedContext 8).unfloored (unenforcedPolicy 8)) =
        .ok pureDecision ∧
      (∀ state ∈ decision.subjects, state.hasAuthority = true) ∧
      ¬ EntitledAlike decision pureDecision := by
  -- a floor of 8 takes four fifths of the window, though floors are not enforced
  have hrun : (evaluateFairness (unenforcedContext 8)).toOption.any (fun decision =>
      decide (decision.subjects.map (fun state =>
        (state.id, state.hasAuthority, state.entitlementUnits)) =
          [(⟨1⟩, true, 2), (⟨2⟩, true, 8)])) = true := by
    decide +kernel
  have hpure : (evaluateFairness ((unenforcedContext 8).unfloored
      (unenforcedPolicy 8))).toOption.any (fun decision =>
      decide (decision.subjects.map (·.entitlementUnits) = [5, 5])) = true := by
    decide +kernel
  obtain ⟨decision, hdecision, hsubjects⟩ := exists_ok_of_any hrun
  obtain ⟨pureDecision, hpureDecision, hunits⟩ := exists_ok_of_any hpure
  have hsubjects := of_decide_eq_true hsubjects
  have hunits := of_decide_eq_true hunits
  refine ⟨by decide +kernel, rfl, by decide +kernel, decision, pureDecision, hdecision,
    hpureDecision, fun state hstate => ?_, fun halike => ?_⟩
  · have hmem := List.mem_map_of_mem (f := fun state : SubjectFairnessState =>
      (state.id, state.hasAuthority, state.entitlementUnits)) hstate
    rw [hsubjects] at hmem
    rcases List.mem_cons.mp hmem with h | h
    · exact congrArg (·.2.1) h
    · exact congrArg (·.2.1) (List.mem_singleton.mp h)
  · have hmem : ((⟨2⟩, true, 8) : SubjectId × Bool × ℕ) ∈ decision.subjects.map (fun state =>
        (state.id, state.hasAuthority, state.entitlementUnits)) := by
      rw [hsubjects]
      simp
    obtain ⟨state, hstate, heq⟩ := List.mem_map.mp hmem
    obtain ⟨other, hother, -, hsame⟩ := halike state hstate (congrArg (·.2.1) heq)
    have height : other.entitlementUnits = 8 := hsame.trans (congrArg (·.2.2) heq)
    have hunit := List.mem_map_of_mem (f := fun state : SubjectFairnessState =>
      state.entitlementUnits) hother
    rw [hunits, height] at hunit
    simp at hunit

end FairnessGovernor
