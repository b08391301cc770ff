/-
# What the correction stage decides

`Corrected` says what moving units does to the plans: the budget is the smallest of the four
bounds, the augmentations hand exactly the budget out in demand order, the reductions take
exactly the budget in supply order, and the outcome is assigned last.  The intents are one for
every plan that is moved, in these orders.
-/
import FairnessGovernor.Eval.AllocateSpec
import FairnessGovernor.Eval.PlanSpec
import FairnessGovernor.Eval.Engine

namespace FairnessGovernor

open Apportion Sorting

variable {policy : FairnessPolicy}

/-- The outcome a plan ends with, by what it was planned with. -/
structure Outcomes (p q : SubjectPlan) : Prop where
  without : p.hasAuthority = false → q.outcome = p.outcome ∧ q.reason = p.reason
  authority : p.hasAuthority = true → q.outcome ≠ .unknown ∧ q.outcome ≠ .stale
  starving : p.hasAuthority = true → p.starving = true →
    q.outcome = .starvationRisk ∨ q.outcome = .blockedByStrongerObligation

/-- What the correction stage makes of the plans that ask. -/
structure Corrected (policy : FairnessPolicy) (whole : ℕ) (authorityMissing : Bool)
    (asking final : Plans policy) (correction : CorrectionSummary) : Prop where
  settled : ∀ i, (asking i).Settled (final i)
  outcomes : ∀ i, Outcomes (asking i) (final i)
  demand : ∀ i, (final i).demand = (asking i).demand
  reducible : ∀ i, (final i).reducible = (asking i).reducible
  pool : correction.reduciblePoolUnits = ∑ i, (asking i).reducible
  demandTotal : correction.demandUnits = ∑ i, (asking i).demand
  budget : ∃ bps, budgetBps policy whole = .ok bps ∧ correction.authorizedBudgetUnits =
    min (∑ i, (asking i).reducible) (min (∑ i, (asking i).demand)
      (min policy.maxCorrectionUnits.toNat bps))
  augmentUnits : correction.augmentUnits = correction.authorizedBudgetUnits
  reduceUnits : correction.reduceUnits = correction.authorizedBudgetUnits
  augment : ∀ i, (final i).augment =
    takes (fun i => (asking i).demand) (demandOrder asking) correction.authorizedBudgetUnits i
  augment_left :
    left (fun i => (asking i).demand) (demandOrder asking) correction.authorizedBudgetUnits = 0
  reduce : ∀ i, (final i).reduce =
    takes (fun i => (asking i).reducible) (supplyOrder asking) correction.authorizedBudgetUnits i
  reduce_left :
    left (fun i => (asking i).reducible) (supplyOrder asking) correction.authorizedBudgetUnits = 0
  missing : correction.authorityMissing = authorityMissing

lemma assignOutcome_outcomes (subject : Subject) (plan : SubjectPlan) :
    Outcomes plan (assignOutcome policy subject plan) := by
  unfold assignOutcome
  by_cases hauth : plan.hasAuthority = true
  · rw [if_neg (not_not.mpr hauth)]
    refine ⟨fun h => absurd h (by rw [hauth]; exact Bool.noConfusion), fun _ => ?_, fun _ hstarving => ?_⟩
    · split_ifs <;> exact ⟨Outcome.noConfusion, Outcome.noConfusion⟩
    · rw [if_pos hstarving]
      split_ifs
      · exact .inr rfl
      · exact .inl rfl
  · rw [if_pos hauth]
    exact ⟨fun _ => ⟨rfl, rfl⟩, fun h => absurd h hauth, fun h => absurd h hauth⟩

/-- What was computed for the totals. -/
lemma correctionTotals_eq_ok {plans : Plans policy} {totals : CorrectionTotals}
    (h : correctionTotals plans = .ok totals) :
    totals.pool = ∑ i, (plans i).reducible ∧ totals.demandTotal = ∑ i, (plans i).demand ∧
      totals.withheldTotal = ∑ i, (plans i).withheld := by
  have hsum : ∀ {f : SubjectPlan → ℕ} {total : ℕ},
      orFail .arithmeticOverflow "correction totals overflow"
        (checkedTotal (List.ofFn fun i => f (plans i)) 0) = .ok total →
      total = ∑ i, f (plans i) := by
    intro f total htotal
    obtain ⟨-, heq⟩ := checkedTotal_eq_some (orFail_eq_ok.mp htotal) (Nat.zero_le _)
    rw [heq, Nat.zero_add, List.sum_ofFn]
  obtain ⟨pool, hpool, h⟩ := bind_eq_ok.mp h
  obtain ⟨demandTotal, hdemand, h⟩ := bind_eq_ok.mp h
  obtain ⟨withheldTotal, hwithheld, h⟩ := bind_eq_ok.mp h
  obtain rfl := Except.ok.inj h
  exact ⟨hsum hpool, hsum hdemand, hsum hwithheld⟩

/-- Granting hands the whole budget out. -/
lemma grantPlans_eq_ok {plans granted : Plans policy} {authorized : ℕ}
    (h : grantPlans plans authorized = .ok granted) :
    left (fun i => (plans i).demand) (demandOrder plans) authorized = 0 ∧
      granted = fun i => { plans i with
        augment := takes (fun i => (plans i).demand) (demandOrder plans) authorized i } := by
  obtain ⟨consumed, hconsumed, hbudget⟩ := bind_eq_ok.mp h
  obtain ⟨hle, rfl⟩ := usub_eq_ok.mp hconsumed
  obtain ⟨hall, hgranted⟩ := ite_fail_eq_ok.mp hbudget
  rw [not_not] at hall
  exact ⟨by omega, (Except.ok.inj hgranted).symm⟩

/-- The reductions cover the whole budget. -/
lemma reducePlans_eq_ok {plans reduced : Plans policy} {authorized : ℕ}
    (h : reducePlans plans authorized = .ok reduced) :
    left (fun i => (plans i).reducible) (supplyOrder plans) authorized = 0 ∧
      reduced = fun i => { plans i with
        reduce := takes (fun i => (plans i).reducible) (supplyOrder plans) authorized i } := by
  obtain ⟨hnone, h⟩ := ite_fail_eq_ok.mp h
  exact ⟨not_not.mp hnone, (Except.ok.inj h).symm⟩

/-- Holding a shortfall against a plan only marks it. -/
lemma blockPlans_eq_ok {plans held : Plans policy} {blocked : Bool}
    (h : blockPlans plans blocked = .ok held) (i : SubjectIndex policy) :
    ∃ mark, held i = { plans i with blocked := mark } := by
  have hi := collect_eq_ok.mp h i
  split_ifs at hi
  · obtain ⟨unmet, -, hi⟩ := bind_eq_ok.mp hi
    exact ⟨_, (Except.ok.inj hi).symm⟩
  · exact ⟨(plans i).blocked, (Except.ok.inj hi).symm⟩

theorem correctPlans_corrected {whole : ℕ} {authorityMissing : Bool} {asking : Plans policy}
    {result : Plans policy × CorrectionSummary}
    (h : correctPlans whole authorityMissing asking = .ok result) :
    Corrected policy whole authorityMissing asking result.1 result.2 := by
  obtain ⟨totals, htotals, h⟩ := bind_eq_ok.mp h
  obtain ⟨bps, hbps, h⟩ := bind_eq_ok.mp h
  obtain ⟨granted, hgranted, h⟩ := bind_eq_ok.mp h
  obtain ⟨reduced, hreduced, h⟩ := bind_eq_ok.mp h
  obtain ⟨unsatisfied, -, h⟩ := bind_eq_ok.mp h
  obtain ⟨held, hheld, h⟩ := bind_eq_ok.mp h
  obtain rfl := Except.ok.inj h
  obtain ⟨hpool, hdemand, -⟩ := correctionTotals_eq_ok htotals
  obtain ⟨hgrant_left, rfl⟩ := grantPlans_eq_ok hgranted
  obtain ⟨hreduce_left, rfl⟩ := reducePlans_eq_ok hreduced
  have hfinal := blockPlans_eq_ok hheld
  have hdecided : ∀ i, (held i).Decided (assignOutcome policy (subjectAt policy i) (held i)) :=
    fun i => assignOutcome_decided _ _
  -- every stage writes fields of its own, so the final plans show what each has written
  refine {
    settled := fun i => ?_
    outcomes := fun i => ?_
    demand := fun i => ?_
    reducible := fun i => ?_
    pool := hpool
    demandTotal := hdemand
    budget := ⟨bps, hbps, ?_⟩
    augmentUnits := rfl
    reduceUnits := rfl
    augment := fun i => ?_
    augment_left := hgrant_left
    reduce := fun i => ?_
    reduce_left := hreduce_left
    missing := rfl }
  · obtain ⟨mark, hi⟩ := hfinal i
    have hsettled : (asking i).Settled (held i) := by
      rw [hi]
      exact ⟨by constructor <;> rfl, rfl, rfl, rfl⟩
    exact hsettled.trans (hdecided i).toSettled
  · obtain ⟨mark, hi⟩ := hfinal i
    have houtcomes : Outcomes (held i) (assignOutcome policy (subjectAt policy i) (held i)) :=
      assignOutcome_outcomes _ _
    dsimp only
    rw [hi] at houtcomes ⊢
    exact ⟨houtcomes.without, houtcomes.authority, houtcomes.starving⟩
  · obtain ⟨mark, hi⟩ := hfinal i
    rw [(hdecided i).demand, hi]
  · obtain ⟨mark, hi⟩ := hfinal i
    rw [(hdecided i).reducible, hi]
  · dsimp only
    rw [authorizedUnits, hpool, hdemand]
  · obtain ⟨mark, hi⟩ := hfinal i
    rw [(hdecided i).augment, hi]
  · obtain ⟨mark, hi⟩ := hfinal i
    rw [(hdecided i).reduce, hi]
    rfl

/-- With authority only a starving plan ends as a starvation risk. -/
lemma assignOutcome_starvationRisk {subject : Subject} {plan : SubjectPlan}
    (hauth : plan.hasAuthority = true)
    (h : (assignOutcome policy subject plan).outcome = .starvationRisk) : plan.starving = true := by
  by_contra hnot
  unfold assignOutcome at h
  rw [if_neg (not_not.mpr hauth), if_neg hnot] at h
  split_ifs at h

lemma correctPlans_starvationRisk {whole : ℕ} {authorityMissing : Bool} {asking : Plans policy}
    {result : Plans policy × CorrectionSummary}
    (h : correctPlans whole authorityMissing asking = .ok result) {i : SubjectIndex policy}
    (hauth : (asking i).hasAuthority = true) (hrisk : (result.1 i).outcome = .starvationRisk) :
    (asking i).starving = true := by
  obtain ⟨totals, -, h⟩ := bind_eq_ok.mp h
  obtain ⟨bps, -, h⟩ := bind_eq_ok.mp h
  obtain ⟨granted, hgranted, h⟩ := bind_eq_ok.mp h
  obtain ⟨reduced, hreduced, h⟩ := bind_eq_ok.mp h
  obtain ⟨unsatisfied, -, h⟩ := bind_eq_ok.mp h
  obtain ⟨held, hheld, h⟩ := bind_eq_ok.mp h
  obtain rfl := Except.ok.inj h
  obtain ⟨-, rfl⟩ := grantPlans_eq_ok hgranted
  obtain ⟨-, rfl⟩ := reducePlans_eq_ok hreduced
  obtain ⟨mark, hi⟩ := blockPlans_eq_ok hheld i
  have hstarving : (held i).starving = true := by
    refine assignOutcome_starvationRisk ?_ hrisk
    rw [hi]
    exact hauth
  rw [hi] at hstarving
  exact hstarving

/-! ## The intents -/

lemma Generation.le_next {Tag : Type} (a : Generation Tag) : a.value ≤ a.next.value := by
  unfold Generation.next
  split_ifs with h
  · exact UInt64.le_refl _
  · rw [UInt64.le_iff_toNat_le, UInt64.toNat_add]
    have hne : a.value.toNat ≠ 0xFFFFFFFFFFFFFFFF := fun heq => h (UInt64.toNat_inj.mp heq)
    have hlt := a.value.toNat_lt
    show a.value.toNat ≤ (a.value.toNat + 1) % 2 ^ 64
    rw [Nat.mod_eq_of_lt (by omega)]
    omega

/-- The intents of a list of subjects, each with a generation from the given one on. -/
def Issued (make : SubjectIndex policy → InterventionGeneration → CorrectiveIntent)
    (base : InterventionGeneration) (subjects : List (SubjectIndex policy))
    (intents : List CorrectiveIntent) : Prop :=
  List.Forall₂ (fun i intent => ∃ generation, base.value ≤ generation.value ∧
    intent = make i generation) subjects intents

section Intents

variable {plans : Plans policy}
  {make : SubjectIndex policy → InterventionGeneration → CorrectiveIntent}
  {base : InterventionGeneration} {subjects : List (SubjectIndex policy)}
  {intents : List CorrectiveIntent}

lemma Issued.mono {later : InterventionGeneration} (h : Issued make later subjects intents)
    (hle : base.value ≤ later.value) : Issued make base subjects intents :=
  List.Forall₂.imp (fun _ _ ⟨generation, hg, heq⟩ =>
    ⟨generation, UInt64.le_trans hle hg, heq⟩) h

lemma Issued.mem (h : Issued make base subjects intents) {intent : CorrectiveIntent}
    (hintent : intent ∈ intents) :
    ∃ i ∈ subjects, ∃ generation, base.value ≤ generation.value ∧ intent = make i generation := by
  induction h with
  | nil => cases hintent
  | @cons i _ _ _ hi _ ih =>
    rcases List.mem_cons.mp hintent with rfl | hintent
    · exact ⟨i, List.mem_cons_self, hi⟩
    · obtain ⟨j, hj, hmade⟩ := ih hintent
      exact ⟨j, List.mem_cons_of_mem _ hj, hmade⟩

/-- A loop that pushes one intent for every subject that is moved. -/
lemma intents_loop_eq_ok {units : SubjectIndex policy → ℕ} {order : List (SubjectIndex policy)}
    {state state' : IntentState}
    (h : order.foldlM (fun state i =>
      if units i = 0 then .ok state else pushIntent state (make i)) state =
        (.ok state' : Eval IntentState)) :
    state.generation.value ≤ state'.generation.value ∧
      ∃ made, state'.intents = state.intents ++ made ∧
        Issued make state.generation (order.filter fun i => units i ≠ 0) made := by
  induction order generalizing state with
  | nil =>
    obtain rfl := Except.ok.inj h
    exact ⟨UInt64.le_refl _, [], by rw [List.append_nil], .nil⟩
  | cons i order ih =>
    rw [List.foldlM_cons] at h
    obtain ⟨next, hnext, h⟩ := bind_eq_ok.mp h
    obtain ⟨hle, made, hmade, hissued⟩ := ih h
    split_ifs at hnext with hzero
    · obtain rfl := Except.ok.inj hnext
      rw [List.filter_cons_of_neg (by simpa using hzero)]
      exact ⟨hle, made, hmade, hissued⟩
    · obtain ⟨-, hnext⟩ := ite_fail_eq_ok.mp hnext
      obtain rfl := Except.ok.inj hnext
      rw [List.filter_cons_of_pos (by simpa using hzero)]
      refine ⟨UInt64.le_trans state.generation.le_next hle, _ :: made, ?_,
        .cons ⟨_, state.generation.le_next, rfl⟩ (hissued.mono state.generation.le_next)⟩
      rw [hmade, List.append_assoc, List.singleton_append]

/-- The intents are those of the augmentations and then those of the reductions. -/
theorem correctiveIntents_eq_ok {request : EvaluationRequest}
    {generation last : InterventionGeneration}
    (h : correctiveIntents request generation plans = .ok ⟨last, intents⟩) :
    ∃ augments reduces, intents = augments ++ reduces ∧
      Issued (fun i => augmentIntent request (subjectAt policy i) (plans i)) generation
        ((demandOrder plans).filter fun i => (plans i).augment ≠ 0) augments ∧
      Issued (fun i => reduceIntent request (subjectAt policy i) (plans i)) generation
        ((supplyOrder plans).filter fun i => (plans i).reduce ≠ 0) reduces := by
  obtain ⟨augmented, haugmented, hreduced⟩ := bind_eq_ok.mp h
  obtain ⟨hle, augments, haugments, hissued⟩ := intents_loop_eq_ok haugmented
  obtain ⟨-, reduces, hreduces, hissued'⟩ := intents_loop_eq_ok hreduced
  refine ⟨augments, reduces, ?_, hissued, hissued'.mono hle⟩
  rw [← List.nil_append augments, ← haugments]
  exact hreduces

/-- Selecting intents is selecting their subjects. -/
lemma Issued.filter {P : CorrectiveIntent → Bool} {Q : SubjectIndex policy → Bool}
    (h : Issued make base subjects intents) (hPQ : ∀ i generation, P (make i generation) = Q i) :
    Issued make base (subjects.filter Q) (intents.filter P) := by
  induction h with
  | nil => exact .nil
  | @cons i _ _ _ hi _ ih =>
    obtain ⟨generation, hle, rfl⟩ := hi
    by_cases hQ : Q i = true
    · rw [List.filter_cons_of_pos hQ, List.filter_cons_of_pos ((hPQ i generation).trans hQ)]
      exact .cons ⟨generation, hle, rfl⟩ ih
    · rw [List.filter_cons_of_neg hQ,
        List.filter_cons_of_neg fun hP => hQ ((hPQ i generation).symm.trans hP)]
      exact ih

/-- The units of the intents are those of their subjects. -/
lemma Issued.sum_units {units : SubjectIndex policy → ℕ} (h : Issued make base subjects intents)
    (hmake : ∀ i generation, (make i generation).units = units i) :
    (intents.map (·.units)).sum = (subjects.map units).sum := by
  induction h with
  | nil => rfl
  | cons hi _ ih =>
    obtain ⟨generation, -, rfl⟩ := hi
    rw [List.map_cons, List.map_cons, List.sum_cons, List.sum_cons, hmake, ih]

lemma sum_map_filter_ne_zero {units : SubjectIndex policy → ℕ} (order : List (SubjectIndex policy)) :
    ((order.filter fun i => units i ≠ 0).map units).sum = (order.map units).sum := by
  induction order with
  | nil => rfl
  | cons i order ih =>
    by_cases hzero : units i = 0
    · rw [List.filter_cons_of_neg (by simpa using hzero), ih, List.map_cons, List.sum_cons, hzero,
        Nat.zero_add]
    · rw [List.filter_cons_of_pos (by simpa using hzero), List.map_cons, List.map_cons,
        List.sum_cons, List.sum_cons, ih]

/-- What one subject is issued out of an order in which it stands at most once. -/
lemma Issued.one {units : SubjectIndex policy → ℕ} {order : List (SubjectIndex policy)}
    {j : SubjectIndex policy} (hnodup : order.Nodup) (hj : j ∉ order → units j = 0)
    (h : Issued make base ((order.filter fun i => units i ≠ 0).filter fun i => i = j) intents)
    (hmake : ∀ i generation, (make i generation).units = units i) :
    intents.length ≤ 1 ∧ (intents.map (·.units)).sum = units j := by
  obtain ⟨count, hcount⟩ : ∃ c, c = (order.filter fun i => units i ≠ 0).count j := ⟨_, rfl⟩
  rw [List.filter_eq, ← hcount] at h
  have hle : count ≤ 1 := hcount ▸ List.nodup_iff_count_le_one.mp (hnodup.filter _) j
  have hlength := List.Forall₂.length_eq h
  rw [List.length_replicate] at hlength
  refine ⟨hlength ▸ hle, ?_⟩
  rw [h.sum_units hmake, List.map_replicate, List.sum_replicate, smul_eq_mul]
  by_cases hzero : units j = 0
  · rw [hzero, Nat.mul_zero]
  · have hmem : j ∈ order := not_not.mp fun hnot => hzero (hj hnot)
    have hpos : 0 < count := by
      rw [hcount, List.count_pos_iff]
      exact List.mem_filter.mpr ⟨hmem, by simpa using hzero⟩
    rw [Nat.le_antisymm hle hpos, Nat.one_mul]

end Intents

/-! ## The orders -/

lemma demandBefore_congr {p q : Plans policy} (hdemand : ∀ i, (q i).demand = (p i).demand)
    (hstarving : ∀ i, (q i).starving = (p i).starving) : demandBefore q = demandBefore p := by
  funext a b
  unfold demandBefore
  rw [hdemand a, hdemand b, hstarving a, hstarving b]

lemma supplyBefore_congr {p q : Plans policy}
    (hreducible : ∀ i, (q i).reducible = (p i).reducible) : supplyBefore q = supplyBefore p := by
  funext a b
  unfold supplyBefore
  rw [hreducible a, hreducible b]

/-- The order of grants depends only on who asks for how much, and who starves. -/
lemma demandOrder_congr {p q : Plans policy} (hauth : ∀ i, (q i).hasAuthority = (p i).hasAuthority)
    (hdemand : ∀ i, (q i).demand = (p i).demand)
    (hstarving : ∀ i, (q i).starving = (p i).starving) : demandOrder q = demandOrder p := by
  unfold demandOrder
  rw [demandBefore_congr hdemand hstarving]
  simp only [hauth, hdemand]

/-- The order of reductions depends only on who can give how much. -/
lemma supplyOrder_congr {p q : Plans policy} (hauth : ∀ i, (q i).hasAuthority = (p i).hasAuthority)
    (hreducible : ∀ i, (q i).reducible = (p i).reducible) : supplyOrder q = supplyOrder p := by
  unfold supplyOrder
  rw [supplyBefore_congr hreducible]
  simp only [hauth, hreducible]

/-- What the order of grants compares. -/
def demandKey (plans : Plans policy) (i : SubjectIndex policy) : Bool ×ₗ ℕᵒᵈ ×ₗ ℕᵒᵈ ×ₗ ℕ :=
  toLex (!(plans i).starving, toLex (OrderDual.toDual (plans i).demand,
    toLex (OrderDual.toDual (subjectAt policy i).obligationRank.toNat,
      (subjectAt policy i).id.value.toNat)))

/-- What the order of reductions compares. -/
def supplyKey (plans : Plans policy) (i : SubjectIndex policy) : ℕᵒᵈ ×ₗ ℕ ×ₗ ℕ :=
  toLex (OrderDual.toDual (plans i).reducible, toLex ((subjectAt policy i).obligationRank.toNat,
    (subjectAt policy i).id.value.toNat))

lemma demandBefore_compares (plans : Plans policy) :
    Compares (demandBefore plans) (demandKey plans) := by
  have hid : Compares (fun a b => decide ((subjectAt policy a).id.value < (subjectAt policy b).id.value))
      fun i => (subjectAt policy i).id.value.toNat := fun a b => rfl
  refine Compares.first (Compares.first (Compares.first hid ?_ ?_) ?_ ?_) ?_ ?_
  · intro a b
    exact not_congr UInt32.toNat_inj.symm
  · intro a b _
    rfl
  · intro a b
    simp
  · intro a b _
    rfl
  · intro a b
    simp
  · intro a b hne
    cases ha : (plans a).starving <;> cases hb : (plans b).starving <;> simp_all

lemma supplyBefore_compares (plans : Plans policy) :
    Compares (supplyBefore plans) (supplyKey plans) := by
  have hid : Compares (fun a b => decide ((subjectAt policy a).id.value < (subjectAt policy b).id.value))
      fun i => (subjectAt policy i).id.value.toNat := fun a b => rfl
  refine Compares.first (Compares.first hid ?_ ?_) ?_ ?_
  · intro a b
    exact not_congr UInt32.toNat_inj.symm
  · intro a b _
    rfl
  · intro a b
    simp
  · intro a b _
    rfl

lemma nodup_demandOrder (plans : Plans policy) : (demandOrder plans).Nodup :=
  nodup_stdSort ((List.nodup_finRange _).filter _)

lemma nodup_supplyOrder (plans : Plans policy) : (supplyOrder plans).Nodup :=
  nodup_stdSort ((List.nodup_finRange _).filter _)

lemma mem_demandOrder {plans : Plans policy} {i : SubjectIndex policy} :
    i ∈ demandOrder plans ↔ (plans i).hasAuthority = true ∧ 0 < (plans i).demand := by
  simp [demandOrder]

lemma mem_supplyOrder {plans : Plans policy} {i : SubjectIndex policy} :
    i ∈ supplyOrder plans ↔ (plans i).hasAuthority = true ∧ 0 < (plans i).reducible := by
  simp [supplyOrder]

/-! ## What was moved -/

section Moved

variable {whole : ℕ} {authorityMissing : Bool} {asking final : Plans policy}
  {correction : CorrectionSummary}

namespace Corrected

variable (h : Corrected policy whole authorityMissing asking final correction)

include h

lemma demandOrder_eq : demandOrder final = demandOrder asking :=
  demandOrder_congr (fun i => (h.settled i).hasAuthority) h.demand fun i => (h.settled i).starving

lemma supplyOrder_eq : supplyOrder final = supplyOrder asking :=
  supplyOrder_congr (fun i => (h.settled i).hasAuthority) h.reducible

lemma augment_le (i : SubjectIndex policy) : (final i).augment ≤ (final i).demand := by
  rw [h.augment, h.demand]
  exact takes_le _ _ _ _

lemma reduce_le (i : SubjectIndex policy) : (final i).reduce ≤ (final i).reducible := by
  rw [h.reduce, h.reducible]
  exact takes_le _ _ _ _

/-- Nothing is granted to a subject without authority. -/
lemma augment_eq_zero {i : SubjectIndex policy} (hi : (final i).hasAuthority = false) :
    (final i).augment = 0 := by
  rw [h.augment]
  refine takes_of_notMem fun hmem => ?_
  exact Bool.false_ne_true (((h.settled i).hasAuthority.symm.trans hi).symm.trans
    (mem_demandOrder.mp hmem).1)

/-- Nothing is taken from a subject without authority. -/
lemma reduce_eq_zero {i : SubjectIndex policy} (hi : (final i).hasAuthority = false) :
    (final i).reduce = 0 := by
  rw [h.reduce]
  refine takes_of_notMem fun hmem => ?_
  exact Bool.false_ne_true (((h.settled i).hasAuthority.symm.trans hi).symm.trans
    (mem_supplyOrder.mp hmem).1)

/-- The augmentations hand exactly the budget out. -/
lemma sum_augment : ∑ i, (final i).augment = correction.authorizedBudgetUnits := by
  have hsum := sum_takes (nodup_demandOrder asking) (fun i => (asking i).demand)
    correction.authorizedBudgetUnits
  rw [h.augment_left, Nat.add_zero] at hsum
  rw [← hsum]
  exact Finset.sum_congr rfl fun i _ => h.augment i

/-- The reductions take exactly the budget. -/
lemma sum_reduce : ∑ i, (final i).reduce = correction.authorizedBudgetUnits := by
  have hsum := sum_takes (nodup_supplyOrder asking) (fun i => (asking i).reducible)
    correction.authorizedBudgetUnits
  rw [h.reduce_left, Nat.add_zero] at hsum
  rw [← hsum]
  exact Finset.sum_congr rfl fun i _ => h.reduce i

/-- Summing along the order of grants is summing over all subjects. -/
lemma sum_demandOrder_augment :
    ((demandOrder final).map fun i => (final i).augment).sum = ∑ i, (final i).augment := by
  rw [h.demandOrder_eq]
  refine sum_map_stdSort_filter _ fun i hi => ?_
  rw [h.augment]
  exact takes_of_notMem fun hmem => hi (mem_demandOrder.mp hmem)

/-- Summing along the order of reductions is summing over all subjects. -/
lemma sum_supplyOrder_reduce :
    ((supplyOrder final).map fun i => (final i).reduce).sum = ∑ i, (final i).reduce := by
  rw [h.supplyOrder_eq]
  refine sum_map_stdSort_filter _ fun i hi => ?_
  rw [h.reduce]
  exact takes_of_notMem fun hmem => hi (mem_supplyOrder.mp hmem)

end Corrected

end Moved

end FairnessGovernor
