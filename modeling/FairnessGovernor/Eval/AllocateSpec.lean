/-
# The allocator conserves the whole

Inside its domain `allocateWhole` never takes an error exit and no machine word wraps, and
what it returns always sums to the whole.
-/
import FairnessGovernor.Eval.Allocate
import FairnessGovernor.Lib.Sorting

namespace FairnessGovernor

open Apportion Sorting

/-! ## The loops -/

lemma weightTotal_of_le {weights : List ℕ} {weightSum : ℕ} (hpos : ∀ w ∈ weights, 1 ≤ w)
    (hle : weightSum + weights.sum ≤ kUInt64Max) :
    weightTotal weights weightSum = .ok (weightSum + weights.sum) := by
  induction weights generalizing weightSum with
  | nil => simp [weightTotal]
  | cons w rest ih =>
    rw [List.sum_cons] at hle
    have hw : w ≠ 0 := Nat.one_le_iff_ne_zero.mp (hpos w (by simp))
    rw [weightTotal, if_neg hw, checkedAdd_of_le (by omega)]
    simp only [orFail, ok_bind]
    rw [ih (fun v hv => hpos v (by simp [hv])) (by omega), List.sum_cons, Nat.add_assoc]

lemma shareTotal_of_le {shareDetail totalDetail : String} {whole weightSum assigned : ℕ}
    {weights : List ℕ} (hwhole : whole ≤ kUInt64Max) (hsum : weightSum ≤ kUInt64Max)
    (hsum0 : weightSum ≠ 0) (hweights : ∀ w ∈ weights, w ≤ weightSum)
    (hle : assigned + (weights.map fun w => whole * w / weightSum).sum ≤ kUInt64Max) :
    shareTotal shareDetail totalDetail whole weightSum weights assigned =
      .ok (assigned + (weights.map fun w => whole * w / weightSum).sum) := by
  induction weights generalizing assigned with
  | nil => simp [shareTotal]
  | cons w rest ih =>
    rw [List.map_cons, List.sum_cons] at hle
    have hdiv := mulDiv_share hwhole (hweights w (by simp)) hsum hsum0
    rw [shareTotal, hdiv]
    simp only [MulDivResult.ok, Bool.not_false, Bool.and_self, not_true_eq_false, if_false]
    rw [checkedAdd_of_le (by omega)]
    simp only [orFail, ok_bind]
    rw [ih (fun v hv => hweights v (by simp [hv])) (by omega), List.map_cons, List.sum_cons,
      Nat.add_assoc]

lemma floorTotals_of_le {pairs : List (ℕ × ℕ)} {need slack : ℕ}
    (hneed : need + (pairs.map fun p => p.1 - p.2).sum ≤ kUInt64Max)
    (hslack : slack + (pairs.map fun p => p.2 - p.1).sum ≤ kUInt64Max) :
    floorTotals pairs need slack =
      .ok (need + (pairs.map fun p => p.1 - p.2).sum,
        slack + (pairs.map fun p => p.2 - p.1).sum) := by
  induction pairs generalizing need slack with
  | nil => simp [floorTotals]
  | cons p rest ih =>
    obtain ⟨floor, share⟩ := p
    rw [List.map_cons, List.sum_cons] at hneed hslack
    dsimp only at hneed hslack
    rw [floorTotals, List.map_cons, List.sum_cons, List.map_cons, List.sum_cons]
    dsimp only
    split_ifs with h
    · have h0 : share - floor = 0 := by omega
      rw [checkedAdd_of_le (by omega)]
      simp only [orFail, ok_bind]
      rw [ih (by omega) (by omega), h0, Nat.zero_add, Nat.add_assoc]
    · have h0 : floor - share = 0 := by omega
      rw [checkedAdd_of_le (by omega)]
      simp only [orFail, ok_bind]
      rw [ih (by omega) (by omega), h0, Nat.zero_add, Nat.add_assoc]

/-! ## Sorted selections -/

section Sorted

variable {n : ℕ} {κ : Type} [LinearOrder κ] {before : Fin n → Fin n → Bool} {key : Fin n → κ}

/-- A comparator by a key is asymmetric. -/
lemma compares_asymm (h : Compares before key) (a b : Fin n) (hab : before a b = true) :
    before b a = false := by
  rw [h a b, decide_eq_true_iff] at hab
  rw [h b a, decide_eq_false_iff_not]
  exact lt_asymm hab

variable (h : Compares before key) (hinj : Function.Injective key)

include h hinj

lemma pairwise_stdSort {xs : List (Fin n)} (hnodup : xs.Nodup) :
    (stdSort before xs).Pairwise fun a b => before a b = true :=
  h.pairwise_before hnodup fun _ _ _ _ heq => hinj heq

/-- What is taken by a sorted selection: what those that come first leave, whatever the order of
the input. -/
lemma takes_stdSort {p : Fin n → Bool} {cap : Fin n → ℕ} (hcap : ∀ i, p i = false → cap i = 0)
    (budget : ℕ) (j : Fin n) :
    takes cap (stdSort before ((List.finRange n).filter p)) budget j =
      min (cap j) (budget - ∑ i with before i j, cap i) := by
  have hnodup := (List.nodup_finRange n).filter p
  by_cases hj : p j = true
  · have hmem : j ∈ stdSort before ((List.finRange n).filter p) := by simp [hj]
    rw [takes_eq (pairwise_stdSort h hinj hnodup) (compares_asymm h) hmem,
      ← List.sum_toFinset cap ((nodup_stdSort hnodup).filter _)]
    -- who is not selected has nothing to take
    have hsum : ∑ i ∈ ((stdSort before ((List.finRange n).filter p)).filter
        fun i => before i j).toFinset, cap i = ∑ i with before i j, cap i := by
      refine Finset.sum_subset (fun i hi => ?_) fun i hi hnot => hcap i ?_
      · simp at hi
        simp [hi.2]
      · simp at hi hnot
        simpa [hi] using hnot
    rw [hsum]
  · have hnot : j ∉ stdSort before ((List.finRange n).filter p) := by simp [hj]
    rw [takes_of_notMem hnot, hcap j (by simpa using hj), Nat.zero_min]

/-- Who is handed a unit in sorted order, whatever the order of the input. -/
lemma handOut_stdSort (count : ℕ) (j : Fin n) :
    handOut (stdSort before (List.finRange n)) count j =
      if (Finset.univ.filter fun i => before i j = true).card < count then 1 else 0 := by
  have hnodup := List.nodup_finRange n
  rw [handOut_eq (pairwise_stdSort h hinj hnodup) (compares_asymm h) (by simp),
    ← List.toFinset_card_of_nodup ((nodup_stdSort hnodup).filter _)]
  congr 3
  ext i
  simp

end Sorted

/-! ## The domain -/

/-- The inputs on which the allocator is defined. -/
structure AllocationDomain (children : List AllocationInput) (whole : ℕ) : Prop where
  nonempty : children ≠ []
  length_le : children.length ≤ kMaxSubjects + kMaxGroups
  weight_pos : ∀ child ∈ children, 1 ≤ child.weight
  weights_le : (children.map (·.weight)).sum ≤ kUInt64Max
  floors_le : (children.map (·.floor)).sum ≤ kUInt64Max
  whole_le : whole ≤ kUInt64Max

section Domain

variable {children : List AllocationInput}

lemma sum_map_childAt {α : Type} [AddCommMonoid α] (f : AllocationInput → α) :
    (children.map f).sum = ∑ i, f (childAt children i) := by
  rw [← Fin.sum_univ_fun_getElem]
  rfl

lemma sum_le_sum_of_le {n : ℕ} {f g : Fin n → ℕ} (h : ∀ i, f i ≤ g i) :
    ∑ i, f i ≤ ∑ i, g i := Finset.sum_le_sum fun i _ => h i

lemma le_sum {n : ℕ} (f : Fin n → ℕ) (i : Fin n) : f i ≤ ∑ j, f j :=
  Finset.single_le_sum (fun _ _ => Nat.zero_le _) (Finset.mem_univ i)

/-- The units below the floors and the slack above them balance against the sums. -/
lemma sum_floor_add_slack {n : ℕ} (floor share : Fin n → ℕ) :
    ∑ i, floor i + ∑ i, (share i - floor i) = ∑ i, share i + ∑ i, (floor i - share i) := by
  rw [← Finset.sum_add_distrib, ← Finset.sum_add_distrib]
  exact Finset.sum_congr rfl fun i _ => by omega

lemma nodup_donorOrder (share : Fin children.length → ℕ) : (donorOrder children share).Nodup :=
  nodup_stdSort ((List.nodup_finRange _).filter _)

lemma nodup_obligationOrder (children : List AllocationInput) :
    (obligationOrder children).Nodup :=
  nodup_stdSort (List.nodup_finRange _)

lemma nodup_residueOrder (residue : Fin children.length → ℕ) :
    (residueOrder children residue).Nodup :=
  nodup_stdSort (List.nodup_finRange _)

lemma length_residueOrder (residue : Fin children.length → ℕ) :
    (residueOrder children residue).length = children.length := by
  rw [residueOrder, length_stdSort, List.length_finRange]

/-! ## The branches -/

/-- A sum over a sorted selection is the sum over everything, when what is not selected counts
for nothing. -/
lemma sum_map_stdSort_filter {n : ℕ} (before : Fin n → Fin n → Bool) {p : Fin n → Prop}
    [DecidablePred p] {f : Fin n → ℕ} (h : ∀ i, ¬ p i → f i = 0) :
    ((stdSort before ((List.finRange n).filter fun i => p i)).map f).sum = ∑ i, f i := by
  rw [((stdSort_perm _ _).map _).sum_eq, ← List.sum_toFinset _
    ((List.nodup_finRange _).filter _)]
  refine Finset.sum_subset (Finset.subset_univ _) fun i _ hi => h i ?_
  simpa using hi

/-- A sorted selection is no longer than what it is selected from. -/
lemma length_stdSort_filter_le {n : ℕ} (before : Fin n → Fin n → Bool) (p : Fin n → Bool) :
    (stdSort before ((List.finRange n).filter p)).length ≤ n := by
  rw [length_stdSort]
  exact le_trans (List.length_filter_le _ _) (List.length_finRange).le

/-- The donors hold the slack of all children. -/
lemma sum_room_donors (share : Fin children.length → ℕ) :
    ((donorOrder children share).map (room children share)).sum =
      ∑ i, (share i - floorAt children i) := by
  refine sum_map_stdSort_filter _ fun i hi => ?_
  unfold room
  omega

/-- Reallocation closes, and moves units without creating any. -/
lemma reallocate_ok {share : Fin children.length → ℕ} {need : ℕ}
    (hneed : need = ∑ i, (floorAt children i - share i))
    (hslack : need ≤ ∑ i, (share i - floorAt children i)) :
    ∃ r, reallocate children share need = .ok r ∧ ∑ i, r.allocation i = ∑ i, share i ∧
      r.overcommit = false ∧ r.overcommitShortfall = 0 := by
  have hleft : left (room children share) (donorOrder children share) need = 0 := by
    rw [left_eq, sum_room_donors]
    omega
  have htaken := sum_takes (nodup_donorOrder share) (room children share) need
  rw [hleft, Nat.add_zero] at htaken
  unfold reallocate
  dsimp only
  rw [if_neg (not_not.mpr hleft)]
  refine ⟨_, rfl, ?_, rfl, rfl⟩
  -- every child: what it gets, plus what it gives, is its share plus its own shortfall
  have hbalance : ∀ i, (if floorAt children i > share i then floorAt children i
      else share i - takes (room children share) (donorOrder children share) need i) +
      takes (room children share) (donorOrder children share) need i =
      share i + (floorAt children i - share i) := by
    intro i
    have hle := takes_le (room children share) (donorOrder children share) need i
    unfold room at *
    split_ifs <;> omega
  have hsum := Finset.sum_congr rfl fun i (_ : i ∈ Finset.univ) => hbalance i
  rw [Finset.sum_add_distrib, Finset.sum_add_distrib, htaken, ← hneed] at hsum
  dsimp only
  omega

/-- A loop of additions that all fit their word. -/
lemma collect_uadd {n : ℕ} {f g : Fin n → ℕ} (h : ∀ i, f i + g i ≤ kUInt64Max) :
    collect (fun i => uadd (f i) (g i)) = .ok fun i => f i + g i :=
  collect_eq_ok.mpr fun i => uadd_eq_ok.mpr ⟨h i, rfl⟩

section Weights

variable {whole weightSum : ℕ}

lemma weight_le_sum (hsum : weightSum = (children.map (·.weight)).sum) {w : ℕ}
    (hw : w ∈ children.map (·.weight)) : w ≤ weightSum :=
  hsum ▸ List.single_le_sum (fun _ _ => Nat.zero_le _) w hw

/-- The truncated shares of the children, as the allocator computes them. -/
lemma mulDiv_weight (hsum : weightSum = (children.map (·.weight)).sum)
    (hsum_le : weightSum ≤ kUInt64Max) (hsum0 : weightSum ≠ 0) (hwhole : whole ≤ kUInt64Max)
    (i : Fin children.length) :
    mulDiv whole (childAt children i).weight weightSum =
      { value := whole * (childAt children i).weight / weightSum
        remainder := whole * (childAt children i).weight % weightSum } :=
  mulDiv_share hwhole
    (weight_le_sum hsum (List.mem_map.mpr ⟨_, List.get_mem _ _, rfl⟩)) hsum_le hsum0

/-- The share loop over all children. -/
lemma shareTotal_children (shareDetail totalDetail : String)
    (hsum : weightSum = (children.map (·.weight)).sum) (hsum_le : weightSum ≤ kUInt64Max)
    (hsum0 : weightSum ≠ 0) (hwhole : whole ≤ kUInt64Max) :
    ∃ assigned, shareTotal shareDetail totalDetail whole weightSum (children.map (·.weight)) 0 =
        .ok assigned ∧
      assigned = ∑ i, whole * (childAt children i).weight / weightSum ∧ assigned ≤ whole ∧
      whole ≤ assigned + children.length := by
  have htotal : weightSum = ∑ i, (childAt children i).weight := by rw [hsum, sum_map_childAt]
  have heq : ((children.map (·.weight)).map fun w => whole * w / weightSum).sum =
      ∑ i, whole * (childAt children i).weight / weightSum := by
    rw [List.map_map, sum_map_childAt]
    rfl
  have hle := sum_share_le whole htotal (Nat.pos_of_ne_zero hsum0)
  have hge := whole_le_sum_share whole htotal (Nat.pos_of_ne_zero hsum0)
  rw [Fintype.card_fin] at hge
  refine ⟨_, shareTotal_of_le hwhole hsum_le hsum0 (fun w hw => weight_le_sum hsum hw)
    (by rw [heq]; omega), ?_⟩
  rw [heq]
  omega

/-- Overcommit distributes exactly the whole. -/
lemma overcommitted_ok (share : Fin children.length → ℕ)
    (hsum : weightSum = (children.map (·.weight)).sum) (hsum_le : weightSum ≤ kUInt64Max)
    (hsum0 : weightSum ≠ 0) (hwhole : whole ≤ kUInt64Max)
    (hfloors : ∑ i, floorAt children i ≤ kUInt64Max) :
    ∃ r, overcommitted children share whole weightSum = .ok r ∧ ∑ i, r.allocation i = whole ∧
      r.overcommit = true ∧ r.overcommitShortfall ≤ ∑ i, floorAt children i := by
  obtain ⟨available, havail⟩ : ∃ a, a = left (floorAt children) (obligationOrder children) whole :=
    ⟨_, rfl⟩
  have hgrant := sum_takes (nodup_obligationOrder children) (floorAt children) whole
  rw [← havail] at hgrant
  have havail_le : available ≤ whole := havail ▸ left_le
  obtain ⟨extraAssigned, hloop, hextra, hextra_le, hextra_ge⟩ :=
    shareTotal_children "overcommit share overflowed" "overcommit total overflows" hsum hsum_le
      hsum0 (le_trans havail_le hwhole)
  obtain ⟨order, horder⟩ : ∃ o, o = residueOrder children fun i =>
      (mulDiv available (childAt children i).weight weightSum).remainder := ⟨_, rfl⟩
  have horder_nodup : order.Nodup := horder ▸ nodup_residueOrder _
  have hcount : available - extraAssigned ≤ order.length := by
    rw [horder, length_residueOrder]
    omega
  have hout := sum_handOut horder_nodup hcount
  have hval : ∀ i, (mulDiv available (childAt children i).weight weightSum).value =
      available * (childAt children i).weight / weightSum := fun i => by
    rw [mulDiv_weight hsum hsum_le hsum0 (by omega)]
  -- grant, extra share and residue unit together distribute the whole
  obtain ⟨allocation, halloc⟩ : ∃ a : Fin children.length → ℕ, a = fun i =>
      takes (floorAt children) (obligationOrder children) whole i +
        available * (childAt children i).weight / weightSum +
        handOut order (available - extraAssigned) i := ⟨_, rfl⟩
  have htotal : ∑ i, allocation i = whole := by
    rw [halloc, Finset.sum_add_distrib, Finset.sum_add_distrib, hout]
    omega
  have hcollect : collect (fun i => do
      let shared ← uadd (takes (floorAt children) (obligationOrder children) whole i)
        (mulDiv available (childAt children i).weight weightSum).value
      uadd shared (handOut order (available - extraAssigned) i)) = .ok allocation := by
    refine collect_eq_ok.mpr fun i => ?_
    have hi : allocation i ≤ whole := htotal ▸ le_sum allocation i
    rw [halloc] at hi ⊢
    dsimp only at hi
    rw [hval, bind_eq_ok]
    exact ⟨_, uadd_eq_ok.mpr ⟨by omega, rfl⟩, uadd_eq_ok.mpr ⟨by omega, rfl⟩⟩
  have hshort_le : ∑ i, (floorAt children i - allocation i) ≤ ∑ i, floorAt children i :=
    sum_le_sum_of_le fun i => Nat.sub_le _ _
  have hshort : checkedTotal (List.ofFn fun i => floorAt children i - allocation i) 0 =
      some (∑ i, (floorAt children i - allocation i)) := by
    rw [checkedTotal_of_le (by rw [List.sum_ofFn]; omega), List.sum_ofFn, Nat.zero_add]
  have hrun : overcommitted children share whole weightSum = .ok
      { allocation := allocation
        floorBinding := fun i =>
          ¬ floorAt children i > allocation i ∧ floorAt children i > share i
        overcommit := true
        overcommitShortfall := ∑ i, (floorAt children i - allocation i) } := by
    unfold overcommitted
    dsimp only
    rw [← havail, hloop, ok_bind, usub_eq_ok.mpr ⟨hextra_le, rfl⟩, ok_bind, if_neg (by omega),
      ← horder, hcollect, ok_bind, hshort]
    rfl
  exact ⟨_, hrun, htotal, rfl, hshort_le⟩

/-- Whichever branch is taken succeeds, and misses the whole by the rounding residue only. -/
lemma branch_ok (share : Fin children.length → ℕ) {need slack : ℕ}
    (hsum : weightSum = (children.map (·.weight)).sum) (hsum_le : weightSum ≤ kUInt64Max)
    (hsum0 : weightSum ≠ 0) (hwhole : whole ≤ kUInt64Max)
    (hfloors : ∑ i, floorAt children i ≤ kUInt64Max)
    (hneed : need = ∑ i, (floorAt children i - share i))
    (hslack : slack = ∑ i, (share i - floorAt children i)) :
    ∃ r, branch children share need slack whole weightSum = .ok r ∧
      ∑ i, r.allocation i = (if r.overcommit then whole else ∑ i, share i) ∧
      r.overcommitShortfall ≤ ∑ i, floorAt children i := by
  unfold branch
  split_ifs with h0 hle
  · exact ⟨_, rfl, rfl, Nat.zero_le _⟩
  · obtain ⟨r, hr, hsumr, hover, hshort⟩ := reallocate_ok hneed (hslack ▸ hle)
    exact ⟨r, hr, by simp [hover, hsumr], by omega⟩
  · obtain ⟨r, hr, hsumr, hover, hshort⟩ :=
      overcommitted_ok share hsum hsum_le hsum0 hwhole hfloors
    exact ⟨r, hr, by simp [hover, hsumr], hshort⟩

/-- The residue is handed out exactly when the branch has not used it already. -/
lemma withResidue_ok {result : BranchResult children} (residue : Fin children.length → ℕ)
    {assigned : ℕ} (hwhole : whole ≤ kUInt64Max) (hle : assigned ≤ whole)
    (hge : whole ≤ assigned + children.length)
    (hresult : ∑ i, result.allocation i = if result.overcommit then whole else assigned) :
    ∃ allocation, withResidue children result residue (whole - assigned) = .ok allocation ∧
      ∑ i, allocation i = whole := by
  have hcount : whole - assigned ≤ (residueOrder children residue).length := by
    rw [length_residueOrder]
    omega
  have hout := sum_handOut (nodup_residueOrder residue) hcount
  unfold withResidue
  -- the residue is handed out unless the floors took the whole
  by_cases hres : ¬ result.overcommit ∧ whole - assigned > 0
  · rw [if_neg hres.1] at hresult
    have htotal : ∑ i, (result.allocation i +
        handOut (residueOrder children residue) (whole - assigned) i) = whole := by
      rw [Finset.sum_add_distrib, hout]
      omega
    refine ⟨_, ?_, htotal⟩
    rw [if_pos hres, if_neg (by omega)]
    refine collect_uadd fun i => ?_
    have hi := le_sum (fun i => result.allocation i +
      handOut (residueOrder children residue) (whole - assigned) i) i
    rw [htotal] at hi
    exact le_trans hi hwhole
  · refine ⟨_, if_neg hres, ?_⟩
    rw [hresult]
    split_ifs with hover
    · rfl
    · rw [not_and, not_lt] at hres
      have := hres hover
      omega

end Weights

/-! ## The allocator -/

/-- The stages of a call that returned. -/
structure AllocatorStages (children : List AllocationInput) (whole weightSum assigned : ℕ)
    (totals : ℕ × ℕ) (result : BranchResult children) (allocation : Fin children.length → ℕ)
    (r : AllocationResult) : Prop where
  nonempty : children ≠ []
  weights_eq : weightTotal (children.map (·.weight)) 0 = .ok weightSum
  shares_eq : shareTotal "weighted share overflowed" "assigned total overflows" whole weightSum
    (children.map (·.weight)) 0 = .ok assigned
  totals_eq : floorTotals (List.ofFn fun i =>
    (floorAt children i, (mulDiv whole (childAt children i).weight weightSum).value)) 0 0 =
      .ok totals
  branch_eq : branch children (fun i => (mulDiv whole (childAt children i).weight weightSum).value)
    totals.1 totals.2 whole weightSum = .ok result
  residue_eq : withResidue children result
    (fun i => (mulDiv whole (childAt children i).weight weightSum).remainder) (whole - assigned) =
      .ok allocation
  sum_eq : (List.ofFn allocation).sum = whole
  returned : r = { allocations := List.ofFn allocation
                   floorBinding := List.ofFn result.floorBinding
                   overcommit := result.overcommit
                   overcommitShortfall := result.overcommitShortfall }

lemma allocateWhole_stages {whole : ℕ} {r : AllocationResult}
    (h : allocateWhole children whole = .ok r) : ∃ weightSum assigned totals result allocation,
      AllocatorStages children whole weightSum assigned totals result allocation r := by
  unfold allocateWhole at h
  obtain ⟨hnonempty, h⟩ := ite_fail_eq_ok.mp h
  obtain ⟨-, h⟩ := ite_fail_eq_ok.mp h
  obtain ⟨weightSum, hweights, h⟩ := bind_eq_ok.mp h
  obtain ⟨assigned, hshares, h⟩ := bind_eq_ok.mp h
  obtain ⟨-, h⟩ := ite_fail_eq_ok.mp h
  obtain ⟨totals, htotals, h⟩ := bind_eq_ok.mp h
  obtain ⟨result, hbranch, h⟩ := bind_eq_ok.mp h
  obtain ⟨allocation, hresidue, h⟩ := bind_eq_ok.mp h
  obtain ⟨total, htotal, h⟩ := bind_eq_ok.mp h
  obtain ⟨hcloses, h⟩ := ite_fail_eq_ok.mp h
  have hsum := (checkedTotal_eq_some (orFail_eq_ok.mp htotal) (Nat.zero_le _)).2
  rw [not_not.mp hcloses, Nat.zero_add] at hsum
  exact ⟨weightSum, assigned, totals, result, allocation, hnonempty, hweights, hshares, htotals,
    hbranch, hresidue, hsum.symm, (Except.ok.inj h).symm⟩

/-- What the last check of the allocator guarantees about everything it returns. -/
theorem allocateWhole_conserves {whole : ℕ} {r : AllocationResult}
    (h : allocateWhole children whole = .ok r) :
    r.allocations.length = children.length ∧ r.floorBinding.length = children.length ∧
      r.allocations.sum = whole := by
  obtain ⟨weightSum, assigned, totals, result, allocation, hstages⟩ := allocateWhole_stages h
  rw [hstages.returned]
  exact ⟨List.length_ofFn, List.length_ofFn, hstages.sum_eq⟩

/-- The totals of what the floors lack and of what they leave fit their words. -/
lemma floorTotals_shares {share : Fin children.length → ℕ}
    (hfloors : ∑ i, floorAt children i ≤ kUInt64Max) (hshares : ∑ i, share i ≤ kUInt64Max) :
    floorTotals (List.ofFn fun i => (floorAt children i, share i)) 0 0 =
      .ok (∑ i, (floorAt children i - share i), ∑ i, (share i - floorAt children i)) := by
  have hneed_le : ∑ i, (floorAt children i - share i) ≤ ∑ i, floorAt children i :=
    sum_le_sum_of_le fun i => Nat.sub_le _ _
  have hslack_le : ∑ i, (share i - floorAt children i) ≤ ∑ i, share i :=
    sum_le_sum_of_le fun i => Nat.sub_le _ _
  rw [floorTotals_of_le]
  · simp only [List.map_ofFn, List.sum_ofFn, Function.comp_apply, Nat.zero_add]
  · simp only [List.map_ofFn, List.sum_ofFn, Function.comp_apply]
    omega
  · simp only [List.map_ofFn, List.sum_ofFn, Function.comp_apply]
    omega

/-- Inside its domain the allocator succeeds. -/
theorem allocateWhole_ok {whole : ℕ} (h : AllocationDomain children whole) :
    ∃ r, allocateWhole children whole = .ok r ∧
      r.overcommitShortfall ≤ (children.map (·.floor)).sum := by
  obtain ⟨weightSum, hsum⟩ : ∃ s, s = (children.map (·.weight)).sum := ⟨_, rfl⟩
  have hsum_le : weightSum ≤ kUInt64Max := hsum ▸ h.weights_le
  have hsum0 : weightSum ≠ 0 := by
    obtain ⟨child, rest, hcons⟩ := List.exists_cons_of_ne_nil h.nonempty
    have hpos := h.weight_pos child (by simp [hcons])
    rw [hsum, hcons, List.map_cons, List.sum_cons]
    omega
  have hpos : ∀ w ∈ children.map (·.weight), 1 ≤ w := by simpa using h.weight_pos
  have hweights := weightTotal_of_le hpos (show 0 + _ ≤ kUInt64Max by rw [← hsum]; omega)
  rw [Nat.zero_add, ← hsum] at hweights
  -- the shares that are rounded down leave less than one unit for each child
  obtain ⟨assigned, hloop, hassigned, hassigned_le, hassigned_ge⟩ :=
    shareTotal_children "weighted share overflowed" "assigned total overflows" hsum hsum_le hsum0
      h.whole_le
  obtain ⟨share, hshare⟩ : ∃ s : Fin children.length → ℕ, s = fun i =>
      (mulDiv whole (childAt children i).weight weightSum).value := ⟨_, rfl⟩
  have hshare_sum : ∑ i, share i = assigned := by
    rw [hassigned, hshare]
    refine Finset.sum_congr rfl fun i _ => ?_
    dsimp only
    rw [mulDiv_weight hsum hsum_le hsum0 h.whole_le]
  have hfloors : (children.map (·.floor)).sum = ∑ i, floorAt children i := sum_map_childAt _
  have hfloors_le : ∑ i, floorAt children i ≤ kUInt64Max := hfloors ▸ h.floors_le
  have hwhole_le := h.whole_le
  have htotals := floorTotals_shares hfloors_le (show ∑ i, share i ≤ kUInt64Max by omega)
  obtain ⟨result, hbranch, hbranch_sum, hbranch_short⟩ :=
    branch_ok share hsum hsum_le hsum0 h.whole_le hfloors_le rfl rfl
  -- and these are handed out, so nothing of the whole is left
  obtain ⟨allocation, hresidue, halloc⟩ := withResidue_ok
    (fun i => (mulDiv whole (childAt children i).weight weightSum).remainder) hwhole_le
    hassigned_le hassigned_ge (by rw [hbranch_sum, hshare_sum])
  have htotal : checkedTotal (List.ofFn allocation) 0 = some whole := by
    rw [checkedTotal_of_le (by rw [List.sum_ofFn]; omega), List.sum_ofFn, halloc, Nat.zero_add]
  -- so no check of the function fails
  have hrun : allocateWhole children whole = .ok
      { allocations := List.ofFn allocation
        floorBinding := List.ofFn result.floorBinding
        overcommit := result.overcommit
        overcommitShortfall := result.overcommitShortfall } := by
    unfold allocateWhole
    rw [if_neg h.nonempty, if_neg (by have := h.length_le; omega), hweights, ok_bind, hloop,
      ok_bind]
    dsimp only
    rw [hshare] at htotals hbranch
    rw [if_neg (by omega), htotals, ok_bind]
    dsimp only
    rw [hbranch, ok_bind, hresidue, ok_bind, htotal]
    simp [orFail]
  exact ⟨_, hrun, by rw [hfloors]; exact hbranch_short⟩

end Domain

end FairnessGovernor
