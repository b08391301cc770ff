/-
# Protected groups

The corrective plan keeps a protected subject at its floor, but it does not look at the floors of
groups.  Reductions and grants are decided over the whole forest: each subject gives what the
stronger suppliers leave of the units to be moved, and is granted what the stronger demands leave.
A protected group stays at its floor exactly when its subtree gives no more than it has above the
floor and is granted.
-/
import FairnessGovernor.Eval.Demand
import FairnessGovernor.Eval.PartialAuthority

namespace FairnessGovernor

open Apportion Forest Sorting

/-! ## Subtrees -/

section Subtree

variable (policy : FairnessPolicy)

/-- Whether the way up from `cursor` passes a group; the first argument bounds the length of the
way up, as in the rollups. -/
def passes (g : GroupIndex policy) : ℕ → GroupIndex policy → Bool
  | 0, _ => false
  | steps + 1, cursor =>
    decide (cursor = g) || (parentOf policy cursor).elim false (passes g steps)

/-- Whether a group id is in the subtree of a group. -/
def isBelow (g : GroupIndex policy) (group : FairnessGroupId) : Bool :=
  (byId policy group).elim false (passes policy g kMaxGroupDepth)

/-- What the subjects in the subtree of a group sum up to. -/
def subtreeSum (g : GroupIndex policy) (f : SubjectIndex policy → ℕ) : ℕ :=
  ∑ i with isBelow policy g (subjectAt policy i).group, f i

variable {policy}

/-- The way up passes the ancestors. -/
lemma passes_iff {tree : GroupTree policy} (ht : IsTreeOf tree) {g cursor : GroupIndex policy}
    {steps : ℕ} (hsteps : tree.depth cursor ≤ steps) :
    passes policy g steps cursor = true ↔ Descends (parentOf policy) cursor g := by
  induction steps generalizing cursor with
  | zero =>
    have hpos := ht.isForest.depth_pos cursor
    omega
  | succ steps ih =>
    unfold Descends
    rw [passes, Bool.or_eq_true, decide_eq_true_iff, Relation.ReflTransGen.cases_head_iff]
    cases hparent : parentOf policy cursor with
    | none => simp
    | some p =>
      have hdepth := ht.isForest.depth_child hparent
      have hup := @ih p (by omega)
      rw [Option.elim_some, hup]
      simp [Descends]

/-- A subject is in the subtree of a group when its own group descends from it. -/
lemma isBelow_iff {tree : GroupTree policy} (ht : IsTreeOf tree) {g : GroupIndex policy}
    {group : FairnessGroupId} : isBelow policy g group = true ↔
      ∃ node, byId policy group = some node ∧ Descends (parentOf policy) node g := by
  unfold isBelow
  cases hnode : byId policy group with
  | none => simp
  | some node =>
    rw [Option.elim_some, passes_iff ht (ht.isForest.depth_le node)]
    simp

end Subtree

/-! ## The obligation -/

/-- The records of the subjects in the subtree of a group. -/
def FairnessDecision.below (policy : FairnessPolicy) (decision : FairnessDecision)
    (g : GroupIndex policy) : List SubjectFairnessState :=
  decision.subjects.filter fun state => isBelow policy g state.group

/-- Every protected group that was served its floor is still at its floor after the plan. -/
def KeepsGroupFloors (policy : FairnessPolicy) (decision : FairnessDecision) : Prop :=
  ∀ g : GroupIndex policy, (groupAt policy g).protectedObligation = true →
    (groupAt policy g).guaranteeFloor.toNat ≤
      ((decision.below policy g).map (·.servedUnits)).sum →
    (groupAt policy g).guaranteeFloor.toNat +
        ((decision.below policy g).map fun state => decision.movedFor .reduce state.id).sum ≤
      ((decision.below policy g).map (·.servedUnits)).sum +
        ((decision.below policy g).map fun state => decision.movedFor .augment state.id).sum

instance (policy : FairnessPolicy) (decision : FairnessDecision) :
    Decidable (KeepsGroupFloors policy decision) :=
  inferInstanceAs (Decidable (∀ _, _))

section Inputs

variable (context : EvaluationContext) (policy : FairnessPolicy)
  (accounting : FairnessAccounting) (covered : Plans policy) (split : PassState policy)

/-- What the inputs ask for and can give, as the orders of grants and reductions compare it. -/
def inputPlans : Plans policy := fun i =>
  { starving := starvesAt context policy accounting covered i
    demand := demandAt context policy accounting covered split i
    reducible := supplyAt context policy covered split i }

/-- What a subject gives: what the stronger suppliers leave of the units to be moved, as far as
its supply goes. -/
def takenAt (i : SubjectIndex policy) : ℕ :=
  min (supplyAt context policy covered split i)
    (movable context policy accounting covered split -
      ∑ j with supplyBefore (inputPlans context policy accounting covered split) j i,
        supplyAt context policy covered split j)

/-- What a subject is granted: what the stronger demands leave of the units to be moved, as far
as its demand goes. -/
def grantedAt (i : SubjectIndex policy) : ℕ :=
  min (demandAt context policy accounting covered split i)
    (movable context policy accounting covered split -
      ∑ j with demandBefore (inputPlans context policy accounting covered split) j i,
        demandAt context policy accounting covered split j)

/-- No protected group that was served its floor gives more than it has above the floor and is
granted. -/
def GivesHeadroom : Prop :=
  ∃ covered split, Inputs context policy accounting covered split ∧
    ∀ g : GroupIndex policy, (groupAt policy g).protectedObligation = true →
      (groupAt policy g).guaranteeFloor.toNat ≤ subtreeSum policy g (fun i => (covered i).served) →
      subtreeSum policy g (takenAt context policy accounting covered split) ≤
        (subtreeSum policy g (fun i => (covered i).served) -
          (groupAt policy g).guaranteeFloor.toNat) +
        subtreeSum policy g (grantedAt context policy accounting covered split)

end Inputs

/-! ## What the plan moves -/

section Orders

variable {policy : FairnessPolicy} {plans : Plans policy}

/-- A grant is what the stronger demands leave. -/
lemma takes_demandOrder (hp : ValidPolicy policy)
    (hwithout : ∀ i, (plans i).hasAuthority = false → (plans i).demand = 0) (budget : ℕ)
    (i : SubjectIndex policy) :
    takes (fun i => (plans i).demand) (demandOrder plans) budget i =
      min (plans i).demand (budget - ∑ j with demandBefore plans j i, (plans j).demand) := by
  refine takes_stdSort (demandBefore_compares plans) (demandKey_injective hp) ?_ budget i
  intro j hj
  cases hauth : (plans j).hasAuthority with
  | false => exact hwithout j hauth
  | true => simpa [hauth] using hj

/-- A reduction is what the stronger supplies leave. -/
lemma takes_supplyOrder (hp : ValidPolicy policy)
    (hwithout : ∀ i, (plans i).hasAuthority = false → (plans i).reducible = 0) (budget : ℕ)
    (i : SubjectIndex policy) :
    takes (fun i => (plans i).reducible) (supplyOrder plans) budget i =
      min (plans i).reducible (budget - ∑ j with supplyBefore plans j i, (plans j).reducible) := by
  refine takes_stdSort (supplyBefore_compares plans) (supplyKey_injective hp) ?_ budget i
  intro j hj
  cases hauth : (plans j).hasAuthority with
  | false => exact hwithout j hauth
  | true => simpa [hauth] using hj

end Orders

section Evaluation

variable {context : EvaluationContext} {policy : FairnessPolicy}
  {accounting : FairnessAccounting} {decision : FairnessDecision} {tree : GroupTree policy}
  {eligible : Except EvidenceFailure EvidenceSnapshot} {whole : ℕ} {numbered : Plans policy}
  {planned : Planned policy} {states : SubjectIndex policy → SubjectFairnessState}
  {missing : Bool} {covered : Plans policy} {split : PassState policy}

/-- A sum over the records of a subtree is a sum over its subjects. -/
lemma Evaluated.sum_below (hd : Evaluated context policy accounting planned states decision)
    (g : GroupIndex policy) {f : SubjectFairnessState → ℕ} {h : SubjectIndex policy → ℕ}
    (hf : ∀ i, f (states i) = h i) :
    ((decision.below policy g).map f).sum = subtreeSum policy g h := by
  rw [FairnessDecision.below, hd.subjects, sum_filter_ofFn, subtreeSum, Finset.sum_filter]
  refine Finset.sum_congr rfl fun i _ => ?_
  rw [(hd.reported i).group, hf]

section Stages

variable (hp : ValidPolicy policy)
  (hs : EvaluationStages context policy accounting tree eligible whole numbered planned)
  (hc : Corrected policy whole missing (askingPlans context.request accounting eligible numbered)
    planned.plans planned.correction)
  (hwhole : whole ≤ kUInt64Max)

include hp hs hc hwhole

/-- The reductions of a plan, from the inputs. -/
lemma reduce_eq (i : SubjectIndex policy) :
    (planned.plans i).reduce = takenAt context policy accounting
      (authorityPlans context.request accounting eligible) planned.distribution.effective i := by
  have hreducible : ∀ j, (askingPlans context.request accounting eligible numbered j).reducible =
      supplyAt context policy (authorityPlans context.request accounting eligible)
        planned.distribution.effective j :=
    fun j => (hc.reducible j).symm.trans (reducible_eq hs hc j)
  have hwithout : ∀ j, (askingPlans context.request accounting eligible numbered j).hasAuthority =
      false → (askingPlans context.request accounting eligible numbered j).reducible = 0 := by
    intro j hj
    rw [hreducible, supplyAt, hs.unobserved ((hc.settled j).hasAuthority.trans hj)]
    rfl
  have hbefore : supplyBefore (askingPlans context.request accounting eligible numbered) =
      supplyBefore (inputPlans context policy accounting
        (authorityPlans context.request accounting eligible) planned.distribution.effective) :=
    supplyBefore_congr hreducible
  rw [hc.reduce, takes_supplyOrder hp hwithout, authorized_eq hs hc hwhole, hbefore]
  simp only [hreducible]
  rfl

/-- The grants of a plan, from the inputs. -/
lemma augment_eq (i : SubjectIndex policy) :
    (planned.plans i).augment = grantedAt context policy accounting
      (authorityPlans context.request accounting eligible) planned.distribution.effective i := by
  have hdemand : ∀ j, (askingPlans context.request accounting eligible numbered j).demand =
      demandAt context policy accounting (authorityPlans context.request accounting eligible)
        planned.distribution.effective j :=
    fun j => (hc.demand j).symm.trans (demand_eq hs hc j)
  have hnothing : ∀ j, (planned.plans j).hasAuthority = false →
      demandAt context policy accounting (authorityPlans context.request accounting eligible)
        planned.distribution.effective j = 0 := by
    intro j hj
    rw [demandAt, hs.unobserved hj]
    rfl
  have hwithout : ∀ j, (askingPlans context.request accounting eligible numbered j).hasAuthority =
      false → (askingPlans context.request accounting eligible numbered j).demand = 0 := by
    intro j hj
    rw [hdemand, hnothing j ((hc.settled j).hasAuthority.trans hj)]
  rw [grantedAt]
  cases hi : (planned.plans i).hasAuthority with
  | false => rw [hc.augment_eq_zero hi, hnothing i hi, Nat.zero_min]
  | true =>
    have hstarving : ∀ j, (planned.plans j).hasAuthority = true →
        (askingPlans context.request accounting eligible numbered j).starving =
          starvesAt context policy accounting
            (authorityPlans context.request accounting eligible) j :=
      fun j hj => (hc.settled j).starving.symm.trans (starving_eq hs hj)
    rw [hc.augment, takes_demandOrder hp hwithout, authorized_eq hs hc hwhole]
    simp only [hdemand]
    congr 2
    -- who has no authority asks for nothing, wherever the order puts it
    rw [Finset.sum_filter, Finset.sum_filter]
    refine Finset.sum_congr rfl fun j _ => ?_
    cases hj : (planned.plans j).hasAuthority with
    | false => rw [hnothing j hj, ite_self, ite_self]
    | true =>
      have hbefore : demandBefore (askingPlans context.request accounting eligible numbered) j i =
          demandBefore (inputPlans context policy accounting
            (authorityPlans context.request accounting eligible) planned.distribution.effective)
            j i := by
        unfold demandBefore
        rw [hdemand j, hdemand i, hstarving j hj, hstarving i hi]
        rfl
      rw [hbefore]

/-- The plan moves for each subject what the inputs say. -/
lemma movedFor_eq_at (hd : Evaluated context policy accounting planned states decision)
    (i : SubjectIndex policy) :
    decision.movedFor .reduce (states i).id = takenAt context policy accounting
        (authorityPlans context.request accounting eligible) planned.distribution.effective i ∧
      decision.movedFor .augment (states i).id = grantedAt context policy accounting
        (authorityPlans context.request accounting eligible) planned.distribution.effective i := by
  obtain ⟨⟨-, haugment⟩, -, hreduce⟩ := hd.movedFor_eq hp hc i
  rw [(hd.reported i).id, haugment, hreduce]
  exact ⟨reduce_eq hp hs hc hwhole i, augment_eq hp hs hc hwhole i⟩

end Stages

end Evaluation

/-- The plan for a covered population keeps the protected groups at their floors exactly when no
subtree gives more than its headroom and what it is granted. -/
theorem keepsGroupFloors_iff {context : EvaluationContext} {policy : FairnessPolicy}
    {accounting : FairnessAccounting} {decision : FairnessDecision}
    (hpolicy : context.policy = some policy) (haccounting : context.accounting = some accounting)
    (hvalid : validatePolicy policy = .ok ())
    (hevidence : ∀ evidence ∈ context.evidence, validateEvidence evidence = .ok ())
    (h : evaluateFairness context = .ok decision)
    (hcomplete : ∀ state ∈ decision.subjects, state.hasAuthority = true) :
    KeepsGroupFloors policy decision ↔ GivesHeadroom context policy accounting := by
  obtain ⟨tree, eligible, whole, numbered, planned, states, hs, hd, hc, -⟩ :=
    evaluateFairness_stages hpolicy haccounting h
  have hp := ValidPolicy.of_ok hvalid
  have hwhole : whole ≤ kUInt64Max :=
    (hs.whole_bounded hp hevidence).trans (by decide)
  have hauth : ∀ i, (planned.plans i).hasAuthority = true := by
    intro i
    rw [← (hd.reported i).hasAuthority]
    exact hcomplete _ (hd.mem_iff.mpr ⟨i, rfl⟩)
  have hmoved := movedFor_eq_at hp hs hc hwhole hd
  have hserved : ∀ i, (states i).servedUnits =
      (authorityPlans context.request accounting eligible i).served :=
    fun i => (hd.reported i).served.trans (hs.served (hauth i))
  -- what is below a group, from the inputs
  have hgroup : ∀ g : GroupIndex policy,
      (((decision.below policy g).map (·.servedUnits)).sum = subtreeSum policy g fun i =>
        (authorityPlans context.request accounting eligible i).served) ∧
      (((decision.below policy g).map fun state => decision.movedFor .reduce state.id).sum =
        subtreeSum policy g (takenAt context policy accounting
          (authorityPlans context.request accounting eligible) planned.distribution.effective)) ∧
      (((decision.below policy g).map fun state => decision.movedFor .augment state.id).sum =
        subtreeSum policy g (grantedAt context policy accounting
          (authorityPlans context.request accounting eligible) planned.distribution.effective)) :=
    fun g => ⟨hd.sum_below g hserved, hd.sum_below g fun i => (hmoved i).1,
      hd.sum_below g fun i => (hmoved i).2⟩
  constructor
  · intro hkeeps
    refine ⟨_, _, hs.inputs, fun g hprotected hfloor => ?_⟩
    obtain ⟨hsum, htaken, hgranted⟩ := hgroup g
    have hkept := hkeeps g hprotected (by rw [hsum]; exact hfloor)
    rw [hsum, htaken, hgranted] at hkept
    omega
  · rintro ⟨covered, split, hinputs, hgives⟩ g hprotected hfloor
    obtain ⟨rfl, rfl⟩ := hs.inputs.unique hinputs
    obtain ⟨hsum, htaken, hgranted⟩ := hgroup g
    rw [hsum] at hfloor
    have hheadroom := hgives g hprotected hfloor
    rw [hsum, htaken, hgranted]
    omega

/-- Two root groups of which the first is protected at a hundred units; it governs the first two
subjects, the other group the third. -/
def protectedPolicy : FairnessPolicy :=
  { correctablePolicy with
    maxCarryUnits := 1000
    groups :=
      [{ id := ⟨1⟩, generation := ⟨1⟩, guaranteeFloor := 100, obligationRank := 1,
         protectedObligation := true },
        { id := ⟨2⟩, generation := ⟨1⟩ }]
    subjects := correctablePolicy.subjects ++
      [{ id := ⟨3⟩, generation := ⟨1⟩, group := ⟨2⟩, maxReduceUnits := 100, maxAugmentUnits := 100 }] }

/-- The third subject is still owed units of earlier windows. -/
def owedAccounting (units : UInt64) : FairnessAccounting :=
  { subjects := [{ id := ⟨3⟩, generation := ⟨1⟩, cumulativeDeficit := units }] }

/-- The evaluation of a window in which the protected group was served exactly its floor. -/
def protectedContext (units : UInt64) : EvaluationContext :=
  { pairContext [{ id := ⟨1⟩, generation := ⟨1⟩, servedUnits := 100 },
      { id := ⟨2⟩, generation := ⟨1⟩, servedUnits := 0 },
      { id := ⟨3⟩, generation := ⟨1⟩, servedUnits := 100 }] with
    policy := some protectedPolicy
    accounting := some (owedAccounting units) }

theorem keepsGroupFloors_iff_unowed : ∃ decision,
    evaluateFairness (protectedContext 0) = .ok decision ∧
      (KeepsGroupFloors protectedPolicy decision ↔
        GivesHeadroom (protectedContext 0) protectedPolicy (owedAccounting 0)) := by
  have hrun : (evaluateFairness (protectedContext 0)).toOption.any (fun decision =>
      ∀ state ∈ decision.subjects, state.hasAuthority = true) = true := by
    decide +kernel
  have hevidence : ∀ evidence ∈ (protectedContext 0).evidence,
      validateEvidence evidence = .ok () := by
    intro evidence hmem
    obtain rfl := Option.some.inj hmem
    decide +kernel
  obtain ⟨decision, hdecision, hcomplete⟩ := exists_ok_of_any hrun
  exact ⟨decision, hdecision, keepsGroupFloors_iff rfl rfl (by decide +kernel) hevidence hdecision
    (of_decide_eq_true hcomplete)⟩

/-- The debt to the third subject is paid out of the protected group, which ends below its
floor. -/
theorem not_keepsGroupFloors :
    validatePolicy protectedPolicy = .ok () ∧
    (∀ evidence ∈ (protectedContext 200).evidence, validateEvidence evidence = .ok ()) ∧
    ∃ decision, evaluateFairness (protectedContext 200) = .ok decision ∧
      (∀ state ∈ decision.subjects, state.hasAuthority = true) ∧
      ¬ KeepsGroupFloors protectedPolicy decision := by
  refine ⟨by decide +kernel, ?_, ?_⟩
  · intro evidence hmem
    obtain rfl := Option.some.inj hmem
    decide +kernel
  · have hrun : (evaluateFairness (protectedContext 200)).toOption.any (fun decision =>
        (∀ state ∈ decision.subjects, state.hasAuthority = true) ∧
          ¬ KeepsGroupFloors protectedPolicy decision) = true := by
      decide +kernel
    obtain ⟨decision, hdecision, hnot⟩ := exists_ok_of_any hrun
    exact ⟨decision, hdecision, of_decide_eq_true hnot⟩

end FairnessGovernor
