/-
# The priority of grants and reductions

The budget is handed out in the documented order: starvation first, then the larger demand, then
the stronger obligation, then identity; reductions come from the larger surplus first, then from
the weaker obligation.  Both orders are strict and total on a validated policy, so the greedy
loops fill a prefix of the competitors, and at most one competitor on each side is filled in part.
What competes is what the inputs ask for and can give, after the caps and the cooldown.
-/
import FairnessGovernor.Eval.ProtectedGroups

namespace FairnessGovernor

open Apportion Sorting

/-! ## The documented orders -/

section Orders

variable (context : EvaluationContext) (policy : FairnessPolicy)
  (accounting : FairnessAccounting) (covered : Plans policy) (split : PassState policy)

/-- Starving before non-starving, then larger demand, then higher obligation rank, then smaller
id. -/
def GrantPrecedes (i j : SubjectIndex policy) : Prop :=
  let starves := starvesAt context policy accounting covered
  let demand := demandAt context policy accounting covered split
  (starves i = true ∧ starves j = false) ∨ (starves i = starves j ∧
    (demand j < demand i ∨ (demand i = demand j ∧
      ((subjectAt policy j).obligationRank < (subjectAt policy i).obligationRank ∨
        ((subjectAt policy i).obligationRank = (subjectAt policy j).obligationRank ∧
          (subjectAt policy i).id.value < (subjectAt policy j).id.value)))))

/-- Larger reducible units, then lower obligation rank, then smaller id. -/
def ReductionPrecedes (i j : SubjectIndex policy) : Prop :=
  let supply := supplyAt context policy covered split
  supply j < supply i ∨ (supply i = supply j ∧
    ((subjectAt policy i).obligationRank < (subjectAt policy j).obligationRank ∨
      ((subjectAt policy i).obligationRank = (subjectAt policy j).obligationRank ∧
        (subjectAt policy i).id.value < (subjectAt policy j).id.value)))

end Orders

/-- Units are moved along a strict and total order: nobody moves more than was asked of it, and
after somebody who was not filled nobody moves anything. -/
structure FillsInOrder {ι : Type} (precedes : ι → ι → Prop) (asked moved : ι → ℕ) : Prop where
  irrefl : ∀ i, ¬ precedes i i
  trans : ∀ i j k, precedes i j → precedes j k → precedes i k
  total : ∀ i j, i ≠ j → precedes i j ∨ precedes j i
  within : ∀ i, moved i ≤ asked i
  later_nothing : ∀ i j, moved i < asked i → precedes i j → moved j = 0

/-- At most one competitor is filled in part. -/
lemma FillsInOrder.one_partial {ι : Type} {precedes : ι → ι → Prop} {asked moved : ι → ℕ}
    (h : FillsInOrder precedes asked moved) {i j : ι} (hi : 0 < moved i) (hi' : moved i < asked i)
    (hj : 0 < moved j) (hj' : moved j < asked j) : i = j := by
  by_contra hne
  rcases h.total i j hne with hij | hji
  · exact hj.ne' (h.later_nothing i j hi' hij)
  · exact hi.ne' (h.later_nothing j i hj' hji)

/-- The grants and the reductions of a decision follow the documented priority. -/
structure FollowsPriority (context : EvaluationContext) (policy : FairnessPolicy)
    (accounting : FairnessAccounting) (decision : FairnessDecision) (covered : Plans policy)
    (split : PassState policy) : Prop where
  inputs : Inputs context policy accounting covered split
  grants : FillsInOrder (GrantPrecedes context policy accounting covered split)
    (demandAt context policy accounting covered split)
    fun i => decision.movedFor .augment (subjectAt policy i).id
  reductions : FillsInOrder (ReductionPrecedes context policy covered split)
    (supplyAt context policy covered split)
    fun i => decision.movedFor .reduce (subjectAt policy i).id
  starving_first : ∀ i j, starvesAt context policy accounting covered i = true →
    decision.movedFor .augment (subjectAt policy i).id <
      demandAt context policy accounting covered split i →
    starvesAt context policy accounting covered j = false →
    decision.movedFor .augment (subjectAt policy j).id = 0
  one_partial_grant : ∀ i j,
    0 < decision.movedFor .augment (subjectAt policy i).id →
    decision.movedFor .augment (subjectAt policy i).id <
      demandAt context policy accounting covered split i →
    0 < decision.movedFor .augment (subjectAt policy j).id →
    decision.movedFor .augment (subjectAt policy j).id <
      demandAt context policy accounting covered split j → i = j
  one_partial_reduction : ∀ i j,
    0 < decision.movedFor .reduce (subjectAt policy i).id →
    decision.movedFor .reduce (subjectAt policy i).id < supplyAt context policy covered split i →
    0 < decision.movedFor .reduce (subjectAt policy j).id →
    decision.movedFor .reduce (subjectAt policy j).id < supplyAt context policy covered split j →
    i = j

/-! ## The orders the code sorts by -/

section Keys

variable {context : EvaluationContext} {policy : FairnessPolicy}
  {accounting : FairnessAccounting} {covered : Plans policy} {split : PassState policy}
  {plans : Plans policy}

/-- The key of the grants compares what the documentation says. -/
lemma demandKey_lt_iff {i j : SubjectIndex policy} : demandKey plans i < demandKey plans j ↔
    ((plans i).starving = true ∧ (plans j).starving = false) ∨
      ((plans i).starving = (plans j).starving ∧
        ((plans j).demand < (plans i).demand ∨ ((plans i).demand = (plans j).demand ∧
          ((subjectAt policy j).obligationRank < (subjectAt policy i).obligationRank ∨
            ((subjectAt policy i).obligationRank = (subjectAt policy j).obligationRank ∧
              (subjectAt policy i).id.value < (subjectAt policy j).id.value))))) := by
  have hstarving : (!(plans i).starving) < (!(plans j).starving) ↔
      (plans i).starving = true ∧ (plans j).starving = false := by
    cases (plans i).starving <;> cases (plans j).starving <;> decide
  have hsame : (!(plans i).starving) = (!(plans j).starving) ↔
      (plans i).starving = (plans j).starving := Bool.not_inj_iff
  simp only [demandKey, Prod.Lex.toLex_lt_toLex, hstarving, hsame, OrderDual.toDual_lt_toDual,
    OrderDual.toDual_inj, UInt32.toNat_inj, ← UInt32.lt_iff_toNat_lt, ← UInt64.lt_iff_toNat_lt]

/-- The key of the reductions compares what the documentation says. -/
lemma supplyKey_lt_iff {i j : SubjectIndex policy} : supplyKey plans i < supplyKey plans j ↔
    (plans j).reducible < (plans i).reducible ∨ ((plans i).reducible = (plans j).reducible ∧
      ((subjectAt policy i).obligationRank < (subjectAt policy j).obligationRank ∨
        ((subjectAt policy i).obligationRank = (subjectAt policy j).obligationRank ∧
          (subjectAt policy i).id.value < (subjectAt policy j).id.value))) := by
  simp only [supplyKey, Prod.Lex.toLex_lt_toLex, OrderDual.toDual_lt_toDual, OrderDual.toDual_inj,
    UInt32.toNat_inj, ← UInt32.lt_iff_toNat_lt, ← UInt64.lt_iff_toNat_lt]

lemma grantPrecedes_iff {i j : SubjectIndex policy} :
    GrantPrecedes context policy accounting covered split i j ↔
      demandKey (inputPlans context policy accounting covered split) i <
        demandKey (inputPlans context policy accounting covered split) j := by
  rw [demandKey_lt_iff]
  rfl

lemma reductionPrecedes_iff {i j : SubjectIndex policy} :
    ReductionPrecedes context policy covered split i j ↔
      supplyKey (inputPlans context policy accounting covered split) i <
        supplyKey (inputPlans context policy accounting covered split) j := by
  rw [supplyKey_lt_iff]
  rfl

/-- What is moved along an order with an injective key. -/
lemma FillsInOrder.of_key {ι κ : Type} [LinearOrder κ] {precedes : ι → ι → Prop} {key : ι → κ}
    {asked moved : ι → ℕ} (hkey : ∀ i j, precedes i j ↔ key i < key j)
    (hinj : Function.Injective key) (hwithin : ∀ i, moved i ≤ asked i)
    (hlater : ∀ i j, moved i < asked i → precedes i j → moved j = 0) :
    FillsInOrder precedes asked moved where
  irrefl i := by
    rw [hkey]
    exact lt_irrefl _
  trans i j k := by
    rw [hkey, hkey, hkey]
    exact lt_trans
  total i j hne := by
    rw [hkey, hkey]
    exact lt_or_gt_of_ne (hinj.ne hne)
  within := hwithin
  later_nothing := hlater

end Keys

/-! ## The loops fill a prefix -/

section Evaluation

variable {context : EvaluationContext} {policy : FairnessPolicy}
  {accounting : FairnessAccounting} {decision : FairnessDecision} {tree : GroupTree policy}
  {eligible : Except EvidenceFailure EvidenceSnapshot} {whole : ℕ} {numbered : Plans policy}
  {planned : Planned policy} {missing : Bool}

variable
  (hs : EvaluationStages context policy accounting tree eligible whole numbered planned)
  (hc : Corrected policy whole missing (askingPlans context.request accounting eligible numbered)
    planned.plans planned.correction)

include hs hc

/-- After a demand that was left short nothing is granted. -/
lemma augment_eq_zero_of_short {i j : SubjectIndex policy}
    (hshort : (planned.plans i).augment < (planned.plans i).demand)
    (hij : GrantPrecedes context policy accounting
      (authorityPlans context.request accounting eligible) planned.distribution.effective i j) :
    (planned.plans j).augment = 0 := by
  cases hj : (planned.plans j).hasAuthority with
  | false => exact hc.augment_eq_zero hj
  | true =>
    have hi : (planned.plans i).hasAuthority = true := by
      by_contra hnot
      have hblank : (authorityPlans context.request accounting eligible i).Blank :=
        authorityPlans_blank i
      rw [hc.demand, hs.without (Bool.eq_false_of_not_eq_true hnot), hblank.demand] at hshort
      exact Nat.not_lt_zero _ hshort
    have hasking : ∀ k, (planned.plans k).hasAuthority = true →
        (askingPlans context.request accounting eligible numbered k).starving =
            starvesAt context policy accounting
              (authorityPlans context.request accounting eligible) k ∧
          (askingPlans context.request accounting eligible numbered k).demand =
            demandAt context policy accounting
              (authorityPlans context.request accounting eligible)
              planned.distribution.effective k :=
      fun k hk => ⟨(hc.settled k).starving.symm.trans (starving_eq hs hk),
        (hc.demand k).symm.trans (demand_eq hs hc k)⟩
    -- the order of the demand side is the order of the keys that the loop sorts by
    have hkey : demandKey (askingPlans context.request accounting eligible numbered) i <
        demandKey (askingPlans context.request accounting eligible numbered) j := by
      rw [demandKey_lt_iff, (hasking i hi).1, (hasking i hi).2, (hasking j hj).1, (hasking j hj).2]
      exact hij
    rw [hc.demand] at hshort
    rw [hc.augment] at hshort ⊢
    refine takes_eq_zero ((demandBefore_compares _).pairwise_le _) ?_ hkey hshort
    rw [mem_demandOrder]
    exact ⟨(hc.settled i).hasAuthority.symm.trans hi, by omega⟩

/-- After a supply that was not used up nothing is taken. -/
lemma reduce_eq_zero_of_short {i j : SubjectIndex policy}
    (hshort : (planned.plans i).reduce < (planned.plans i).reducible)
    (hij : ReductionPrecedes context policy
      (authorityPlans context.request accounting eligible) planned.distribution.effective i j) :
    (planned.plans j).reduce = 0 := by
  have hkey : supplyKey (askingPlans context.request accounting eligible numbered) i <
      supplyKey (askingPlans context.request accounting eligible numbered) j := by
    rw [supplyKey_lt_iff, ← hc.reducible, ← hc.reducible, reducible_eq hs hc, reducible_eq hs hc]
    exact hij
  have hi : (planned.plans i).hasAuthority = true := by
    by_contra hnot
    have hblank : (authorityPlans context.request accounting eligible i).Blank :=
      authorityPlans_blank i
    rw [hc.reducible, hs.without (Bool.eq_false_of_not_eq_true hnot), hblank.reducible] at hshort
    exact Nat.not_lt_zero _ hshort
  rw [hc.reducible] at hshort
  rw [hc.reduce] at hshort ⊢
  refine takes_eq_zero ((supplyBefore_compares _).pairwise_le _) ?_ hkey hshort
  rw [mem_supplyOrder]
  exact ⟨(hc.settled i).hasAuthority.symm.trans hi, by omega⟩

end Evaluation

/-- The grants and the reductions of every decision on a validated policy follow the documented
priority. -/
theorem follows_priority {context : EvaluationContext} {policy : FairnessPolicy}
    {accounting : FairnessAccounting} {decision : FairnessDecision}
    (hpolicy : context.policy = some policy) (haccounting : context.accounting = some accounting)
    (hvalid : validatePolicy policy = .ok ()) (h : evaluateFairness context = .ok decision) :
    ∃ covered split, FollowsPriority context policy accounting decision covered split := by
  obtain ⟨tree, eligible, whole, numbered, planned, states, hs, hd, hc, -⟩ :=
    evaluateFairness_stages hpolicy haccounting h
  have hp := ValidPolicy.of_ok hvalid
  have haugment : ∀ i, decision.movedFor .augment (subjectAt policy i).id =
      (planned.plans i).augment := fun i => (hd.movedFor_eq hp hc i).1.2
  have hreduce : ∀ i, decision.movedFor .reduce (subjectAt policy i).id =
      (planned.plans i).reduce := fun i => (hd.movedFor_eq hp hc i).2.2
  have hdemand := demand_eq hs hc
  have hsupply := reducible_eq hs hc
  -- both sides are loops over a list sorted by an injective key
  have hgrants : FillsInOrder (GrantPrecedes context policy accounting
        (authorityPlans context.request accounting eligible) planned.distribution.effective)
      (demandAt context policy accounting
        (authorityPlans context.request accounting eligible) planned.distribution.effective)
      fun i => decision.movedFor .augment (subjectAt policy i).id := by
    refine .of_key (fun _ _ => grantPrecedes_iff) (demandKey_injective hp) (fun i => ?_)
      fun i j hshort hij => ?_
    · rw [haugment, ← hdemand]
      exact hc.augment_le i
    · rw [haugment, ← hdemand] at hshort
      rw [haugment]
      exact augment_eq_zero_of_short hs hc hshort hij
  have hreductions : FillsInOrder (ReductionPrecedes context policy
        (authorityPlans context.request accounting eligible) planned.distribution.effective)
      (supplyAt context policy
        (authorityPlans context.request accounting eligible) planned.distribution.effective)
      fun i => decision.movedFor .reduce (subjectAt policy i).id := by
    refine .of_key (fun _ _ => @reductionPrecedes_iff context policy accounting _ _ _ _)
      (supplyKey_injective hp) (fun i => ?_) fun i j hshort hij => ?_
    · rw [hreduce, ← hsupply]
      exact hc.reduce_le i
    · rw [hreduce, ← hsupply] at hshort
      rw [hreduce]
      exact reduce_eq_zero_of_short hs hc hshort hij
  exact ⟨_, _, {
    inputs := hs.inputs
    grants := hgrants
    reductions := hreductions
    starving_first := fun i j hi hshort hj => hgrants.later_nothing i j hshort (.inl ⟨hi, hj⟩)
    one_partial_grant := fun i j hi hi' hj hj' => hgrants.one_partial hi hi' hj hj'
    one_partial_reduction := fun i j hi hi' hj hj' => hreductions.one_partial hi hi' hj hj' }⟩

theorem follows_priority_correctable : ∃ decision,
    evaluateFairness correctableContext = .ok decision ∧ decision.intents.length = 2 ∧
      ∃ covered split, FollowsPriority correctableContext correctablePolicy {} decision covered
        split := by
  have hrun : (evaluateFairness correctableContext).toOption.any
      (fun decision => decision.intents.length = 2) = true := by
    decide +kernel
  obtain ⟨decision, hdecision, hlength⟩ := exists_ok_of_any hrun
  exact ⟨decision, hdecision, of_decide_eq_true hlength,
    follows_priority rfl rfl (by decide +kernel) hdecision⟩

end FairnessGovernor
