/-
# What the allocator gives

`allotted` says in closed form what every child gets: above its floor what it keeps after its
donation, or its floor as far as the obligation order reaches it, and its part of the rounding
residue.  Whatever a successful `allocateWhole` returns is read off it (`Allocated`), and from
there on no proof unfolds the allocator again.
-/
import FairnessGovernor.Eval.Renaming
import FairnessGovernor.Lib.LargestRemainder

namespace FairnessGovernor

open Apportion Sorting LargestRemainder

/-! ## The closed form -/

section Closed

variable (children : List AllocationInput) (whole : ℕ)

/-- The weight of the competitor at an index. -/
def weightAt (i : Fin children.length) : ℕ := (childAt children i).weight

/-- The truncated weighted share of the competitor at an index. -/
def shareAt (i : Fin children.length) : ℕ := quota (weightAt children) whole i

/-- What all floors together ask for. -/
def floorSum : ℕ := ∑ i, floorAt children i

/-- What the truncated shares give out together. -/
def shareSum : ℕ := ∑ i, shareAt children whole i

/-- What the children below their floors lack together. -/
def shortage : ℕ := ∑ i, (floorAt children i - shareAt children whole i)

/-- What a donor gives up for the floors of others. -/
def donationAt (i : Fin children.length) : ℕ :=
  takes (room children (shareAt children whole)) (donorOrder children (shareAt children whole))
    (shortage children whole) i

/-- The part of the rounding residue of a whole. -/
def residueAt (i : Fin children.length) : ℕ :=
  handOut (residueOrder children (remainder (weightAt children) whole))
    (leftover (weightAt children) whole) i

/-- What a child is given by weight alone. -/
def weighedAt (i : Fin children.length) : ℕ := shareAt children whole i + residueAt children whole i

/-- What a child is given where floors are met in obligation order and the rest is shared. -/
def metAt (i : Fin children.length) : ℕ :=
  takes (floorAt children) (obligationOrder children) whole i +
    shareAt children (whole - floorSum children) i +
    residueAt children (whole - floorSum children) i

/-- What every child is given.  The floors are funded by donations while the truncated shares
cover them all; else they are met in obligation order. -/
def allotted (i : Fin children.length) : ℕ :=
  if floorSum children ≤ shareSum children whole then
    max (floorAt children i) (shareAt children whole i) - donationAt children whole i +
      residueAt children whole i
  else metAt children whole i

end Closed

/-- What holds of a list and the family of its members holds of a family and its list. -/
lemma forall_family {P : (n : ℕ) → (Fin n → AllocationInput) → List AllocationInput → Prop}
    (h : ∀ children, P children.length (childAt children) children) {n : ℕ}
    (child : Fin n → AllocationInput) : P n child (List.ofFn child) := by
  obtain ⟨children, hchildren⟩ : ∃ children, children = List.ofFn child := ⟨_, rfl⟩
  rw [← hchildren]
  have hlength : children.length = n := by rw [hchildren, List.length_ofFn]
  subst hlength
  have hsame : childAt children = child :=
    List.ofFn_injective ((List.ofFn_get children).trans hchildren)
  rw [← hsame]
  exact h children

variable {children : List AllocationInput} {whole : ℕ}

lemma sum_weightAt : (children.map (·.weight)).sum = ∑ i, weightAt children i := sum_map_childAt _

lemma sum_floorAt : (children.map (·.floor)).sum = floorSum children := sum_map_childAt _

lemma donationAt_le (i : Fin children.length) :
    donationAt children whole i ≤ room children (shareAt children whole) i := takes_le _ _ _ _

lemma residueAt_le (i : Fin children.length) : residueAt children whole i ≤ 1 := handOut_le

/-- The shortfall is covered by the slack exactly where the floors fit into the shares. -/
lemma shortage_le_iff : shortage children whole ≤
    ∑ i, (shareAt children whole i - floorAt children i) ↔
      floorSum children ≤ shareSum children whole := by
  have h := sum_floor_add_slack (floorAt children) (shareAt children whole)
  unfold shortage floorSum shareSum
  omega

lemma shortage_eq_zero_iff :
    shortage children whole = 0 ↔ ∀ i, floorAt children i ≤ shareAt children whole i := by
  unfold shortage
  rw [Finset.sum_eq_zero_iff]
  simp only [Finset.mem_univ, true_imp_iff, Nat.sub_eq_zero_iff_le]

/-- Where nothing is lacking, nobody donates. -/
lemma donationAt_eq_zero (h : shortage children whole = 0) (i : Fin children.length) :
    donationAt children whole i = 0 := by
  have htaken := sum_takes (nodup_donorOrder (shareAt children whole))
    (room children (shareAt children whole)) 0
  have hle := le_sum (takes (room children (shareAt children whole))
    (donorOrder children (shareAt children whole)) 0) i
  unfold donationAt
  rw [h]
  omega

/-- Where no floor exceeds its share, the weights decide. -/
lemma allotted_of_floors_le (h : ∀ i, floorAt children i ≤ shareAt children whole i) :
    allotted children whole = weighedAt children whole := by
  funext i
  have hfits : floorSum children ≤ shareSum children whole := sum_le_sum_of_le h
  rw [allotted, if_pos hfits, donationAt_eq_zero (shortage_eq_zero_iff.mpr h),
    Nat.max_eq_right (h i), Nat.sub_zero]
  rfl

/-! ## The loops of a call that succeeded -/

/-- Every weight counted, and their sum is a machine word. -/
lemma weightTotal_range {weights : List ℕ} {weightSum total : ℕ}
    (h : weightTotal weights weightSum = .ok total) (hstart : weightSum ≤ kUInt64Max) :
    total ≤ kUInt64Max ∧ ∀ w ∈ weights, 0 < w := by
  induction weights generalizing weightSum with
  | nil =>
    obtain rfl := Except.ok.inj h
    exact ⟨hstart, by simp⟩
  | cons w rest ih =>
    rw [weightTotal] at h
    obtain ⟨hw, h⟩ := ite_fail_eq_ok.mp h
    obtain ⟨next, hnext, h⟩ := bind_eq_ok.mp h
    obtain ⟨hle, rfl⟩ := checkedAdd_eq_some.mp (orFail_eq_ok.mp hnext)
    obtain ⟨htotal, hrest⟩ := ih h hle
    refine ⟨htotal, fun v hv => ?_⟩
    rcases List.mem_cons.mp hv with rfl | hv
    · exact Nat.pos_of_ne_zero hw
    · exact hrest v hv

/-! ## The branches of a call that succeeded -/

section Branches

variable {result : BranchResult children} {need slack weightSum : ℕ}

/-- What a branch decides, in closed form. -/
structure Branched (children : List AllocationInput) (whole : ℕ)
    (result : BranchResult children) : Prop where
  overcommit : result.overcommit = true ↔ shareSum children whole < floorSum children
  within : floorSum children ≤ shareSum children whole → ∀ i, result.allocation i =
    max (floorAt children i) (shareAt children whole i) - donationAt children whole i
  beyond : shareSum children whole < floorSum children →
    result.allocation = allotted children whole
  shortfall : result.overcommitShortfall =
    if shareSum children whole < floorSum children then
      ∑ i, (floorAt children i - allotted children whole i) else 0

lemma reallocate_branched
    (h : reallocate children (shareAt children whole) (shortage children whole) = .ok result)
    (hfits : floorSum children ≤ shareSum children whole) : Branched children whole result := by
  unfold reallocate at h
  obtain ⟨-, h⟩ := ite_fail_eq_ok.mp h
  obtain rfl := Except.ok.inj h
  refine ⟨⟨fun hover => (by cases hover), fun hlt => absurd hfits (by omega)⟩, fun _ i => ?_,
    fun hlt => absurd hfits (by omega), by rw [if_neg (by omega)]⟩
  have hle := @donationAt_le children whole i
  show (if floorAt children i > shareAt children whole i then floorAt children i
    else shareAt children whole i - donationAt children whole i) = _
  unfold room at hle
  split_ifs with hbelow <;> omega

section Weights

variable (hsum : weightSum = (children.map (·.weight)).sum) (hsum_le : weightSum ≤ kUInt64Max)
  (hsum0 : weightSum ≠ 0) (hwhole : whole ≤ kUInt64Max)

include hsum hsum_le hsum0 hwhole

/-- The share and the remainder that the allocator computes. -/
lemma mulDiv_shareAt (i : Fin children.length) :
    mulDiv whole (childAt children i).weight weightSum =
      { value := shareAt children whole i
        remainder := remainder (weightAt children) whole i } := by
  rw [mulDiv_weight hsum hsum_le hsum0 hwhole, hsum, sum_weightAt]
  rfl

lemma shareTotal_shareAt {shareDetail totalDetail : String} {assigned : ℕ}
    (h : shareTotal shareDetail totalDetail whole weightSum (children.map (·.weight)) 0 =
      .ok assigned) : assigned = shareSum children whole := by
  rw [shareTotal_eq_ok h, Nat.zero_add, List.map_map, sum_map_childAt]
  refine Finset.sum_congr rfl fun i _ => ?_
  show (mulDiv whole (childAt children i).weight weightSum).value = _
  rw [mulDiv_shareAt hsum hsum_le hsum0 hwhole]

lemma overcommitted_branched
    (h : overcommitted children (shareAt children whole) whole weightSum = .ok result)
    (hbeyond : shareSum children whole < floorSum children) :
    Branched children whole result := by
  -- the order in which the floors are met does not matter for what they leave together
  have havailable : left (floorAt children) (obligationOrder children) whole =
      whole - floorSum children := by
    rw [left_eq]
    congr 1
    rw [obligationOrder, ((stdSort_perm _ _).map _).sum_eq, ← List.ofFn_eq_map, List.sum_ofFn]
    rfl
  have hle : whole - floorSum children ≤ kUInt64Max := le_trans (Nat.sub_le _ _) hwhole
  unfold overcommitted at h
  dsimp only at h
  rw [havailable] at h
  obtain ⟨assigned, hassigned, h⟩ := bind_eq_ok.mp h
  obtain ⟨extraLeft, hleft, h⟩ := bind_eq_ok.mp h
  obtain ⟨-, h⟩ := ite_fail_eq_ok.mp h
  obtain ⟨allocation, hallocation, h⟩ := bind_eq_ok.mp h
  obtain ⟨shortfall, hshortfall, h⟩ := bind_eq_ok.mp h
  obtain rfl := Except.ok.inj h
  have hextra : extraLeft = leftover (weightAt children) (whole - floorSum children) := by
    rw [(usub_eq_ok.mp hleft).2, shareTotal_shareAt hsum hsum_le hsum0 hle hassigned]
    rfl
  have hsame : allocation = allotted children whole := by
    funext i
    obtain ⟨shared, hshared, hgiven⟩ := bind_eq_ok.mp (collect_eq_ok.mp hallocation i)
    rw [(uadd_eq_ok.mp hgiven).2, (uadd_eq_ok.mp hshared).2, hextra, allotted,
      if_neg (by omega)]
    simp only [mulDiv_shareAt hsum hsum_le hsum0 hle]
    rfl
  refine ⟨⟨fun _ => hbeyond, fun _ => rfl⟩, fun hfits => absurd hfits (by omega),
    fun _ => hsame, ?_⟩
  rw [if_pos hbeyond]
  have htotal := (checkedTotal_eq_some (orFail_eq_ok.mp hshortfall) (Nat.zero_le _)).2
  dsimp only
  rw [htotal, Nat.zero_add, List.sum_ofFn, hsame]

lemma branch_branched
    (h : branch children (shareAt children whole) (shortage children whole)
      (∑ i, (shareAt children whole i - floorAt children i)) whole weightSum = .ok result) :
    Branched children whole result := by
  unfold branch at h
  by_cases hneed : shortage children whole = 0
  · -- no floor binds
    rw [if_pos hneed] at h
    obtain rfl := Except.ok.inj h
    have hbelow := shortage_eq_zero_iff.mp hneed
    have hfits : floorSum children ≤ shareSum children whole := sum_le_sum_of_le hbelow
    refine ⟨⟨fun hover => (by cases hover), fun hlt => absurd hfits (by omega)⟩, fun _ i => ?_,
      fun hlt => absurd hfits (by omega), by rw [if_neg (by omega)]⟩
    rw [donationAt_eq_zero hneed, Nat.max_eq_right (hbelow i), Nat.sub_zero]
  · rw [if_neg hneed] at h
    by_cases hslack : shortage children whole ≤
        ∑ i, (shareAt children whole i - floorAt children i)
    · rw [if_pos hslack] at h
      exact reallocate_branched h (shortage_le_iff.mp hslack)
    · rw [if_neg hslack] at h
      refine overcommitted_branched hsum hsum_le hsum0 hwhole h ?_
      exact not_le.mp fun hfits => hslack (shortage_le_iff.mpr hfits)

end Weights

end Branches

/-! ## The allocator -/

/-- What a successful call has returned. -/
structure Allocated (children : List AllocationInput) (whole : ℕ) (r : AllocationResult) :
    Prop where
  weights_pos : 0 < ∑ i, weightAt children i
  allocations : r.allocations = List.ofFn (allotted children whole)
  overcommit : r.overcommit = true ↔ shareSum children whole < floorSum children
  shortfall : r.overcommitShortfall =
    if shareSum children whole < floorSum children then
      ∑ i, (floorAt children i - allotted children whole i) else 0

/-- Whatever the allocator returns is read off the closed form. -/
theorem allocateWhole_allotted {r : AllocationResult} (hwhole : whole ≤ kUInt64Max)
    (h : allocateWhole children whole = .ok r) : Allocated children whole r := by
  obtain ⟨weightSum, assigned, totals, result, allocation, hne, hweights, hassigned, htotals,
    hbranch, hallocation, -, rfl⟩ := allocateWhole_stages h
  have hsum : weightSum = (children.map (·.weight)).sum := by
    rw [weightTotal_eq_ok hweights, Nat.zero_add]
  obtain ⟨hsum_le, hpos⟩ := weightTotal_range hweights (Nat.zero_le _)
  have hsum0 : 0 < (children.map (·.weight)).sum := by
    obtain ⟨child, rest, hcons⟩ := List.exists_cons_of_ne_nil hne
    have hchild := hpos child.weight (by simp [hcons])
    rw [hcons, List.map_cons, List.sum_cons]
    omega
  have hsum0' : weightSum ≠ 0 := by omega
  have hshare : (fun i => (mulDiv whole (childAt children i).weight weightSum).value) =
      shareAt children whole := by
    funext i
    rw [mulDiv_shareAt hsum hsum_le hsum0' hwhole]
  have hresidue : (fun i => (mulDiv whole (childAt children i).weight weightSum).remainder) =
      remainder (weightAt children) whole := by
    funext i
    rw [mulDiv_shareAt hsum hsum_le hsum0' hwhole]
  obtain rfl := shareTotal_shareAt hsum hsum_le hsum0' hwhole hassigned
  rw [floorTotals_eq_ok htotals] at hbranch
  simp only [List.map_ofFn, List.sum_ofFn, Function.comp_def, Nat.zero_add, hshare] at hbranch
  have hbranched : Branched children whole result := by
    refine branch_branched hsum hsum_le hsum0' hwhole ?_
    rw [← hbranch]
    simp only [shortage, ← hshare]
  have hgiven : allocation = allotted children whole := by
    unfold withResidue at hallocation
    rw [hresidue] at hallocation
    by_cases hfits : floorSum children ≤ shareSum children whole
    · have hover : ¬ result.overcommit = true := fun hover => by
        have := hbranched.overcommit.mp hover
        omega
      funext i
      rw [allotted, if_pos hfits, ← hbranched.within hfits i]
      by_cases hleft : whole - shareSum children whole > 0
      · rw [if_pos ⟨hover, hleft⟩] at hallocation
        obtain ⟨-, hallocation⟩ := ite_fail_eq_ok.mp hallocation
        exact (uadd_eq_ok.mp (collect_eq_ok.mp hallocation i)).2
      · -- nothing is left over
        rw [if_neg fun h => hleft h.2] at hallocation
        have hnone : leftover (weightAt children) whole = 0 := by
          show whole - shareSum children whole = 0
          omega
        rw [← Except.ok.inj hallocation, residueAt, hnone, handOut, List.take_zero,
          if_neg (by simp), Nat.add_zero]
    · have hover := hbranched.overcommit.mpr (by omega)
      rw [if_neg fun h => h.1 hover] at hallocation
      rw [← Except.ok.inj hallocation, hbranched.beyond (by omega)]
  refine ⟨by rw [← sum_weightAt]; exact hsum0, congrArg List.ofFn hgiven, hbranched.overcommit,
    hbranched.shortfall⟩

end FairnessGovernor
