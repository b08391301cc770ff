/-
# The allocator and the order of its competitors

Where the keys of the competitors differ, every order the allocator sorts them into is decided by
the competitors alone.  So what each of them is given does not depend on where it stands among
them: renaming the positions renames the result.
-/
import FairnessGovernor.Eval.AllocateSpec

namespace FairnessGovernor

open Apportion Sorting

/-! ## What the loops return -/

lemma weightTotal_eq_ok {weights : List ℕ} {weightSum total : ℕ}
    (h : weightTotal weights weightSum = .ok total) : total = weightSum + weights.sum := by
  induction weights generalizing weightSum with
  | nil => exact (Except.ok.inj h).symm
  | cons w rest ih =>
    rw [weightTotal] at h
    obtain ⟨-, h⟩ := ite_fail_eq_ok.mp h
    obtain ⟨next, hnext, h⟩ := bind_eq_ok.mp h
    obtain ⟨-, rfl⟩ := checkedAdd_eq_some.mp (orFail_eq_ok.mp hnext)
    rw [ih h, List.sum_cons, Nat.add_assoc]

lemma shareTotal_eq_ok {shareDetail totalDetail : String} {whole weightSum assigned total : ℕ}
    {weights : List ℕ}
    (h : shareTotal shareDetail totalDetail whole weightSum weights assigned = .ok total) :
    total = assigned + (weights.map fun w => (mulDiv whole w weightSum).value).sum := by
  induction weights generalizing assigned with
  | nil => exact (Except.ok.inj h).symm
  | cons w rest ih =>
    rw [shareTotal] at h
    obtain ⟨-, h⟩ := ite_fail_eq_ok.mp h
    obtain ⟨next, hnext, h⟩ := bind_eq_ok.mp h
    obtain ⟨-, rfl⟩ := checkedAdd_eq_some.mp (orFail_eq_ok.mp hnext)
    rw [ih h, List.map_cons, List.sum_cons, Nat.add_assoc]

lemma floorTotals_eq_ok {pairs : List (ℕ × ℕ)} {need slack : ℕ} {totals : ℕ × ℕ}
    (h : floorTotals pairs need slack = .ok totals) :
    totals = (need + (pairs.map fun p => p.1 - p.2).sum,
      slack + (pairs.map fun p => p.2 - p.1).sum) := by
  induction pairs generalizing need slack with
  | nil => exact (Except.ok.inj h).symm
  | cons p rest ih =>
    obtain ⟨floor, share⟩ := p
    rw [floorTotals] at h
    rw [List.map_cons, List.sum_cons, List.map_cons, List.sum_cons]
    by_cases hlt : floor > share
    · rw [if_pos hlt] at h
      obtain ⟨next, hnext, h⟩ := bind_eq_ok.mp h
      obtain ⟨-, rfl⟩ := checkedAdd_eq_some.mp (orFail_eq_ok.mp hnext)
      have h0 : share - floor = 0 := by omega
      rw [ih h]
      dsimp only
      rw [h0, Nat.zero_add, Nat.add_assoc]
    · rw [if_neg hlt] at h
      obtain ⟨next, hnext, h⟩ := bind_eq_ok.mp h
      obtain ⟨-, rfl⟩ := checkedAdd_eq_some.mp (orFail_eq_ok.mp hnext)
      have h0 : floor - share = 0 := by omega
      rw [ih h]
      dsimp only
      rw [h0, Nat.zero_add, Nat.add_assoc]

/-! ## What the orders compare -/

section Orders

variable (children : List AllocationInput)

/-- What the order of donors compares. -/
def donorKey (share : Fin children.length → ℕ) (i : Fin children.length) : ℕᵒᵈ ×ₗ ℕ ×ₗ ℕ :=
  toLex (OrderDual.toDual (room children share i),
    toLex ((childAt children i).obligationRank.toNat, (childAt children i).key.toNat))

/-- What the order of obligations compares. -/
def obligationKey (i : Fin children.length) : ℕᵒᵈ ×ₗ ℕᵒᵈ ×ₗ ℕ :=
  toLex (OrderDual.toDual (childAt children i).obligationRank.toNat,
    toLex (OrderDual.toDual (floorAt children i), (childAt children i).key.toNat))

/-- What the order of remainders compares. -/
def residueKey (residue : Fin children.length → ℕ) (i : Fin children.length) : ℕᵒᵈ ×ₗ ℕ :=
  toLex (OrderDual.toDual (residue i), (childAt children i).key.toNat)

lemma key_compares : Compares
    (fun a b : Fin children.length => decide ((childAt children a).key < (childAt children b).key))
    fun i => (childAt children i).key.toNat :=
  fun _ _ => rfl

lemma donorBefore_compares (share : Fin children.length → ℕ) :
    Compares (donorBefore children share) (donorKey children share) := by
  refine Compares.first (Compares.first (key_compares children) ?_ ?_) ?_ ?_
  · intro a b
    exact not_congr UInt32.toNat_inj.symm
  · intro a b _
    rfl
  · intro a b
    simp
  · intro a b _
    rfl

lemma obligationBefore_compares :
    Compares (obligationBefore children) (obligationKey children) := by
  refine Compares.first (Compares.first (key_compares children) ?_ ?_) ?_ ?_
  · intro a b
    simp
  · intro a b _
    rfl
  · intro a b
    exact not_congr UInt32.toNat_inj.symm
  · intro a b _
    rfl

lemma residueBefore_compares (residue : Fin children.length → ℕ) :
    Compares (residueBefore children residue) (residueKey children residue) := by
  refine Compares.first (key_compares children) ?_ ?_
  · intro a b
    simp
  · intro a b _
    rfl

end Orders

/-- Distinct keys tell the positions apart. -/
lemma childKey_injective {children : List AllocationInput}
    (hkeys : (children.map (·.key)).Nodup) {a b : Fin children.length}
    (h : (childAt children a).key.toNat = (childAt children b).key.toNat) : a = b := by
  have hget := List.inj_on_of_nodup_map hkeys (List.get_mem _ _) (List.get_mem _ _)
    (UInt64.toNat_inj.mp h)
  exact List.nodup_iff_injective_get.mp (List.Nodup.of_map _ hkeys) hget

/-! ## Renaming the competitors -/

/-- A selection of positions, renamed. -/
lemma map_filter_finRange {n m : ℕ} (σ : Fin n ≃ Fin m) {p : Fin n → Bool} {q : Fin m → Bool}
    (h : ∀ i, q (σ i) = p i) :
    (((List.finRange n).filter p).map σ).Perm ((List.finRange m).filter q) := by
  rw [List.perm_ext_iff_of_nodup (((List.nodup_finRange n).filter _).map σ.injective)
    ((List.nodup_finRange m).filter _)]
  intro j
  obtain ⟨i, rfl⟩ := σ.surjective j
  rw [List.mem_map_of_injective σ.injective]
  simp [h]

section Renamed

variable {children others : List AllocationInput} {σ : Fin children.length ≃ Fin others.length}
  {share residue : Fin children.length → ℕ} {share' residue' : Fin others.length → ℕ}
  (hσ : ∀ i, childAt others (σ i) = childAt children i)

include hσ

lemma floorAt_renamed (i : Fin children.length) :
    floorAt others (σ i) = floorAt children i := by
  unfold floorAt
  rw [hσ]

/-- A sum over the competitors does not depend on their names. -/
lemma sum_renamed (f : AllocationInput → ℕ) : (others.map f).sum = (children.map f).sum := by
  rw [sum_map_childAt, sum_map_childAt, ← Equiv.sum_comp σ]
  exact Finset.sum_congr rfl fun i _ => by rw [hσ]

lemma room_renamed (hshare : ∀ i, share' (σ i) = share i) (i : Fin children.length) :
    room others share' (σ i) = room children share i := by
  unfold room
  rw [hshare, floorAt_renamed hσ]

section Keys

variable (hkeys : (others.map (·.key)).Nodup)

include hkeys

lemma donorOrder_renamed (hshare : ∀ i, share' (σ i) = share i) :
    donorOrder others share' = (donorOrder children share).map σ := by
  refine (donorBefore_compares others share').sort_map (fun a _ b _ h => ?_) (fun a b => ?_)
    (map_filter_finRange σ fun i => ?_)
  · have hkey := congrArg (fun k => (ofLex (ofLex k).2).2) h
    exact childKey_injective hkeys hkey
  · unfold donorBefore
    rw [room_renamed hσ hshare, room_renamed hσ hshare, hσ, hσ]
  · rw [hshare, floorAt_renamed hσ]

lemma obligationOrder_renamed : obligationOrder others = (obligationOrder children).map σ := by
  refine (obligationBefore_compares others).sort_map (fun a _ b _ h => ?_) (fun a b => ?_) ?_
  · have hkey := congrArg (fun k => (ofLex (ofLex k).2).2) h
    exact childKey_injective hkeys hkey
  · unfold obligationBefore
    rw [floorAt_renamed hσ, floorAt_renamed hσ, hσ, hσ]
  · simpa using map_filter_finRange σ (p := fun _ => true) (q := fun _ => true) fun _ => rfl

lemma residueOrder_renamed (hresidue : ∀ i, residue' (σ i) = residue i) :
    residueOrder others residue' = (residueOrder children residue).map σ := by
  refine (residueBefore_compares others residue').sort_map (fun a _ b _ h => ?_) (fun a b => ?_) ?_
  · have hkey := congrArg (fun k => (ofLex k).2) h
    exact childKey_injective hkeys hkey
  · unfold residueBefore
    rw [hresidue, hresidue, hσ, hσ]
  · simpa using map_filter_finRange σ (p := fun _ => true) (q := fun _ => true) fun _ => rfl

end Keys

/-- Two branches decide the same for every competitor. -/
structure SameBranch (σ : Fin children.length ≃ Fin others.length)
    (result : BranchResult children) (result' : BranchResult others) : Prop where
  allocation : ∀ i, result'.allocation (σ i) = result.allocation i
  floorBinding : ∀ i, result'.floorBinding (σ i) = result.floorBinding i
  overcommit : result'.overcommit = result.overcommit

variable {result : BranchResult children} {result' : BranchResult others}
  (hkeys : (others.map (·.key)).Nodup)

include hkeys

lemma reallocate_renamed (hshare : ∀ i, share' (σ i) = share i) {need : ℕ}
    (h : reallocate children share need = .ok result)
    (h' : reallocate others share' need = .ok result') : SameBranch σ result result' := by
  obtain ⟨-, h⟩ := ite_fail_eq_ok.mp h
  obtain ⟨-, h'⟩ := ite_fail_eq_ok.mp h'
  obtain rfl := Except.ok.inj h
  obtain rfl := Except.ok.inj h'
  refine ⟨fun i => ?_, fun i => ?_, rfl⟩
  · dsimp only
    rw [hshare, floorAt_renamed hσ, donorOrder_renamed hσ hkeys hshare, takes_map σ.injective]
    simp only [room_renamed hσ hshare]
  · dsimp only
    rw [hshare, floorAt_renamed hσ]

lemma overcommitted_renamed (hshare : ∀ i, share' (σ i) = share i) {whole weightSum : ℕ}
    (h : overcommitted children share whole weightSum = .ok result)
    (h' : overcommitted others share' whole weightSum = .ok result') :
    SameBranch σ result result' := by
  obtain ⟨assigned, hassigned, h⟩ := bind_eq_ok.mp h
  obtain ⟨extraLeft, hleft, h⟩ := bind_eq_ok.mp h
  obtain ⟨-, h⟩ := ite_fail_eq_ok.mp h
  obtain ⟨allocation, hallocation, h⟩ := bind_eq_ok.mp h
  obtain ⟨shortfall, -, h⟩ := bind_eq_ok.mp h
  obtain rfl := Except.ok.inj h
  obtain ⟨assigned', hassigned', h'⟩ := bind_eq_ok.mp h'
  obtain ⟨extraLeft', hleft', h'⟩ := bind_eq_ok.mp h'
  obtain ⟨-, h'⟩ := ite_fail_eq_ok.mp h'
  obtain ⟨allocation', hallocation', h'⟩ := bind_eq_ok.mp h'
  obtain ⟨shortfall', -, h'⟩ := bind_eq_ok.mp h'
  obtain rfl := Except.ok.inj h'
  -- the same is available for the extra shares, and the same residue is left of it
  have havailable : left (floorAt others) (obligationOrder others) whole =
      left (floorAt children) (obligationOrder children) whole := by
    rw [obligationOrder_renamed hσ hkeys, left_map]
    simp only [floorAt_renamed hσ]
  have hextra : extraLeft' = extraLeft := by
    rw [(usub_eq_ok.mp hleft).2, (usub_eq_ok.mp hleft').2, shareTotal_eq_ok hassigned,
      shareTotal_eq_ok hassigned', havailable, List.map_map, List.map_map, sum_renamed hσ]
  have hsame : ∀ i, allocation' (σ i) = allocation i := by
    intro i
    obtain ⟨shared, hshared, hsum⟩ := bind_eq_ok.mp (collect_eq_ok.mp hallocation i)
    obtain ⟨shared', hshared', hsum'⟩ := bind_eq_ok.mp (collect_eq_ok.mp hallocation' (σ i))
    rw [(uadd_eq_ok.mp hsum).2, (uadd_eq_ok.mp hsum').2, (uadd_eq_ok.mp hshared).2,
      (uadd_eq_ok.mp hshared').2, hextra, havailable, obligationOrder_renamed hσ hkeys,
      takes_map σ.injective]
    have hresidue : ∀ j, (mulDiv (left (floorAt children) (obligationOrder children) whole)
        (childAt others (σ j)).weight weightSum).remainder =
        (mulDiv (left (floorAt children) (obligationOrder children) whole)
          (childAt children j).weight weightSum).remainder := fun j => by rw [hσ]
    rw [residueOrder_renamed hσ hkeys hresidue, handOut_map σ.injective]
    simp only [floorAt_renamed hσ, hσ]
  refine ⟨hsame, fun i => ?_, rfl⟩
  dsimp only
  rw [hsame, hshare, floorAt_renamed hσ]

lemma branch_renamed (hshare : ∀ i, share' (σ i) = share i) {need slack whole weightSum : ℕ}
    (h : branch children share need slack whole weightSum = .ok result)
    (h' : branch others share' need slack whole weightSum = .ok result') :
    SameBranch σ result result' := by
  unfold branch at h h'
  by_cases hneed : need = 0
  · rw [if_pos hneed] at h h'
    obtain rfl := Except.ok.inj h
    obtain rfl := Except.ok.inj h'
    exact ⟨hshare, fun _ => rfl, rfl⟩
  · rw [if_neg hneed] at h h'
    by_cases hslack : need ≤ slack
    · rw [if_pos hslack] at h h'
      exact reallocate_renamed hσ hkeys hshare h h'
    · rw [if_neg hslack] at h h'
      exact overcommitted_renamed hσ hkeys hshare h h'

lemma withResidue_renamed (hsame : SameBranch σ result result')
    (hresidue : ∀ i, residue' (σ i) = residue i) {leftover : ℕ}
    {allocation : Fin children.length → ℕ} {allocation' : Fin others.length → ℕ}
    (h : withResidue children result residue leftover = .ok allocation)
    (h' : withResidue others result' residue' leftover = .ok allocation')
    (i : Fin children.length) : allocation' (σ i) = allocation i := by
  unfold withResidue at h h'
  rw [hsame.overcommit] at h'
  by_cases hover : ¬ result.overcommit ∧ leftover > 0
  · rw [if_pos hover] at h h'
    obtain ⟨-, h⟩ := ite_fail_eq_ok.mp h
    obtain ⟨-, h'⟩ := ite_fail_eq_ok.mp h'
    rw [(uadd_eq_ok.mp (collect_eq_ok.mp h i)).2, (uadd_eq_ok.mp (collect_eq_ok.mp h' (σ i))).2,
      hsame.allocation, residueOrder_renamed hσ hkeys hresidue, handOut_map σ.injective]
  · rw [if_neg hover] at h h'
    rw [← Except.ok.inj h, ← Except.ok.inj h', hsame.allocation]

/-- Renaming the competitors renames what they are given. -/
theorem allocateWhole_renamed {whole : ℕ} {r r' : AllocationResult}
    (h : allocateWhole children whole = .ok r) (h' : allocateWhole others whole = .ok r') :
    ∃ (allocation : Fin children.length → ℕ) (allocation' : Fin others.length → ℕ)
      (binding : Fin children.length → Bool) (binding' : Fin others.length → Bool),
      r.allocations = List.ofFn allocation ∧ r'.allocations = List.ofFn allocation' ∧
      r.floorBinding = List.ofFn binding ∧ r'.floorBinding = List.ofFn binding' ∧
      (∀ i, allocation' (σ i) = allocation i) ∧ ∀ i, binding' (σ i) = binding i := by
  obtain ⟨weightSum, assigned, totals, result, allocation, hs⟩ := allocateWhole_stages h
  obtain ⟨weightSum', assigned', totals', result', allocation', hs'⟩ := allocateWhole_stages h'
  -- the loops compute sums, which are the same
  obtain rfl : weightSum' = weightSum := by
    rw [weightTotal_eq_ok hs.weights_eq, weightTotal_eq_ok hs'.weights_eq, sum_renamed hσ]
  obtain rfl : assigned' = assigned := by
    rw [shareTotal_eq_ok hs.shares_eq, shareTotal_eq_ok hs'.shares_eq, List.map_map, List.map_map,
      sum_renamed hσ]
  obtain rfl : totals' = totals := by
    rw [floorTotals_eq_ok hs.totals_eq, floorTotals_eq_ok hs'.totals_eq]
    simp only [List.map_ofFn, List.sum_ofFn, Function.comp_apply]
    rw [← Equiv.sum_comp σ, ← Equiv.sum_comp σ]
    simp only [floorAt_renamed hσ, hσ]
  have hsame := branch_renamed hσ hkeys (fun i => by rw [hσ]) hs.branch_eq hs'.branch_eq
  refine ⟨allocation, allocation', result.floorBinding, result'.floorBinding, ?_, ?_, ?_, ?_,
    withResidue_renamed hσ hkeys hsame (fun i => by rw [hσ]) hs.residue_eq hs'.residue_eq,
    hsame.floorBinding⟩
  · rw [hs.returned]
  · rw [hs'.returned]
  · rw [hs.returned]
  · rw [hs'.returned]

end Renamed

/-- Where the keys of the competitors differ, what each is given depends on which competitors
there are, and not on their order. -/
theorem allocateWhole_perm {children others : List AllocationInput}
    (hkeys : (children.map (·.key)).Nodup) (hperm : children.Perm others) {whole : ℕ}
    {r r' : AllocationResult} (h : allocateWhole children whole = .ok r)
    (h' : allocateWhole others whole = .ok r') :
    ∃ (given : AllocationInput → ℕ) (binding : AllocationInput → Bool),
      (r.allocations = children.map given ∧ r'.allocations = others.map given) ∧
      r.floorBinding = children.map binding ∧ r'.floorBinding = others.map binding := by
  have hnodup : children.Nodup := hkeys.of_map _
  obtain ⟨σ, hσ⟩ := exists_renaming hperm hnodup
  obtain ⟨allocation, allocation', binding, binding', h₁, h₂, h₃, h₄, hallocation, hbinding⟩ :=
    allocateWhole_renamed hσ ((hperm.map _).nodup_iff.mp hkeys) h h'
  have hinjective : Function.Injective (childAt children) :=
    List.nodup_iff_injective_get.mp hnodup
  -- a competitor stands at one position only
  have hread : ∀ {α : Type} (f : Fin children.length → α) (f' : Fin others.length → α),
      (∀ i, f' (σ i) = f i) → ∀ d : AllocationInput → α,
      List.ofFn f = children.map (Function.extend (childAt children) f d) ∧
        List.ofFn f' = others.map (Function.extend (childAt children) f d) := by
    intro α f f' hf d
    constructor
    · refine List.ext_getElem (by simp) fun k h₁ h₂ => ?_
      rw [List.getElem_ofFn, List.getElem_map]
      exact (hinjective.extend_apply f d ⟨k, by simpa using h₂⟩).symm
    · refine List.ext_getElem (by simp) fun k h₁ h₂ => ?_
      rw [List.getElem_ofFn, List.getElem_map]
      have hk : k < others.length := by simpa using h₂
      obtain ⟨i, hi⟩ := σ.surjective ⟨k, hk⟩
      have hchild : childAt others ⟨k, hk⟩ = childAt children i := by
        rw [← hi]
        exact hσ i
      show f' ⟨k, _⟩ = Function.extend (childAt children) f d (childAt others ⟨k, hk⟩)
      rw [hchild, hinjective.extend_apply, ← hf, hi]
  obtain ⟨hgiven, hgiven'⟩ := hread allocation allocation' hallocation fun _ => 0
  obtain ⟨hbound, hbound'⟩ := hread binding binding' hbinding fun _ => false
  exact ⟨_, _, ⟨h₁.trans hgiven, h₂.trans hgiven'⟩, h₃.trans hbound, h₄.trans hbound'⟩

end FairnessGovernor
