/-
# The allocator and the largest remainder method

Where the keys differ, the residue of the allocator goes to whom the largest remainder method
gives its units; and where no floor exceeds its truncated share the allocator is that method.
-/
import FairnessGovernor.Eval.Allotment

namespace FairnessGovernor

open Apportion Sorting LargestRemainder

variable {children : List AllocationInput} {whole : ℕ}

/-- The key of the competitor at an index, as the orders compare it. -/
def keyAt (children : List AllocationInput) (i : Fin children.length) : ℕ :=
  (childAt children i).key.toNat

lemma keyAt_injective (hkeys : (children.map (·.key)).Nodup) :
    Function.Injective (keyAt children) := fun _ _ h => childKey_injective hkeys h

/-- The residue goes to whom the method gives a unit. -/
lemma residueAt_eq_unit (hkeys : (children.map (·.key)).Nodup) (i : Fin children.length) :
    residueAt children whole i = unit (weightAt children) (keyAt children) whole i := by
  have hcompares := residueBefore_compares children (remainder (weightAt children) whole)
  have hinjective : Function.Injective
      (residueKey children (remainder (weightAt children) whole)) :=
    standing_injective (keyAt_injective hkeys)
  unfold residueAt residueOrder unit
  rw [handOut_stdSort hcompares hinjective]
  congr 3
  ext j
  rw [Finset.mem_filter, Finset.mem_filter, hcompares j i, decide_eq_true_iff]
  rfl

/-- Where no floor exceeds its share, the allocator is the method. -/
lemma allotted_eq_split (hkeys : (children.map (·.key)).Nodup)
    (hfloors : ∀ i, floorAt children i ≤ shareAt children whole i) :
    allotted children whole = split (weightAt children) (keyAt children) whole := by
  funext i
  rw [allotted_of_floors_le hfloors, weighedAt, residueAt_eq_unit hkeys]
  rfl

/-! ## The reference -/

/-- An allocation by largest remainders: everybody gets the truncated share or one unit more, as
many get the unit as the shares leave units, these have the largest remainders with ties to the
smaller key, and equal weights differ by at most one unit. -/
structure ByLargestRemainder (children : List AllocationInput) (whole : ℕ)
    (share residue allocation : Fin children.length → ℕ) : Prop where
  near : ∀ i, allocation i = share i ∨ allocation i = share i + 1
  count : (Finset.univ.filter fun i => allocation i = share i + 1).card = whole - ∑ i, share i
  largest : ∀ i j, allocation i = share i + 1 → allocation j = share j →
    residue j < residue i ∨
      residue i = residue j ∧ (childAt children i).key < (childAt children j).key
  equal : ∀ i j, (childAt children i).weight = (childAt children j).weight →
    allocation i ≤ allocation j + 1

lemma split_byLargestRemainder (hkeys : (children.map (·.key)).Nodup)
    (hpos : 0 < ∑ i, weightAt children i) :
    ByLargestRemainder children whole (shareAt children whole)
      (remainder (weightAt children) whole)
      (split (weightAt children) (keyAt children) whole) := by
  have hinjective := keyAt_injective hkeys
  have hunit : ∀ i, unit (weightAt children) (keyAt children) whole i = 0 ∨
      unit (weightAt children) (keyAt children) whole i = 1 := by
    intro i
    have := @unit_le _ _ _ _ (weightAt children) (keyAt children) whole i
    omega
  refine ⟨fun i => ?_, ?_, fun i j hi hj => ?_, fun i j hequal => ?_⟩
  · unfold split
    rcases hunit i with h | h <;> rw [h]
    · exact .inl rfl
    · exact .inr rfl
  · -- the units are counted by their sum
    have hsum := @sum_unit _ _ _ _ (weightAt children) (keyAt children) whole _ hinjective hpos
    have hiff : ∀ i, split (weightAt children) (keyAt children) whole i =
        shareAt children whole i + 1 ↔
          unit (weightAt children) (keyAt children) whole i = 1 := by
      intro i
      unfold split shareAt
      omega
    simp only [hiff]
    rw [Finset.card_filter]
    refine Eq.trans (Finset.sum_congr rfl fun i _ => ?_) hsum
    rcases hunit i with h | h <;> simp [h]
  · have hi' : unit (weightAt children) (keyAt children) whole i = 1 := by
      unfold split shareAt at hi
      omega
    have hj' : unit (weightAt children) (keyAt children) whole j = 0 := by
      unfold split shareAt at hj
      omega
    exact standing_lt_iff.mp (standing_lt_of_unit hinjective hi' hj')
  · have hshare : quota (weightAt children) whole i = quota (weightAt children) whole j := by
      unfold quota weightAt
      rw [hequal]
    unfold split
    rcases hunit i with h | h <;> rw [h, hshare] <;> omega

/-- The allocator is the largest remainder method where no floor exceeds its share. -/
theorem allocateWhole_byLargestRemainder {r : AllocationResult} (hwhole : whole ≤ kUInt64Max)
    (hkeys : (children.map (·.key)).Nodup)
    (hfloors : ∀ child ∈ children,
      child.floor ≤ whole * child.weight / (children.map (·.weight)).sum)
    (h : allocateWhole children whole = .ok r) :
    ∃ allocation, r.allocations = List.ofFn allocation ∧ ByLargestRemainder children whole
      (fun i => whole * (childAt children i).weight / (children.map (·.weight)).sum)
      (fun i => whole * (childAt children i).weight % (children.map (·.weight)).sum)
      allocation := by
  obtain ⟨hpos, hallocations, -, -⟩ := allocateWhole_allotted hwhole h
  have hbelow : ∀ i, floorAt children i ≤ shareAt children whole i := by
    intro i
    have := hfloors _ (List.get_mem _ _ : childAt children i ∈ children)
    rw [sum_weightAt] at this
    exact this
  rw [sum_weightAt]
  exact ⟨_, hallocations.trans (congrArg List.ofFn (allotted_eq_split hkeys hbelow)),
    split_byLargestRemainder hkeys hpos⟩

/-- Seven units for three children, the heavier of which has a floor. -/
def unevenTriple : List AllocationInput :=
  [{ key := 3, weight := 2, floor := 3 }, { key := 1 }, { key := 2 }]

theorem allocateWhole_byLargestRemainder_uneven :
    ∃ r allocation, allocateWhole unevenTriple 7 = .ok r ∧ r.allocations = List.ofFn allocation ∧
      ByLargestRemainder unevenTriple 7
        (fun i => 7 * (childAt unevenTriple i).weight / (unevenTriple.map (·.weight)).sum)
        (fun i => 7 * (childAt unevenTriple i).weight % (unevenTriple.map (·.weight)).sum)
        allocation := by
  obtain ⟨r, hr, -⟩ := @allocateWhole_ok unevenTriple 7
    ⟨by decide, by decide, by decide, by decide, by decide, by decide⟩
  obtain ⟨allocation, hallocation⟩ := allocateWhole_byLargestRemainder (by decide) (by decide)
    (by decide) hr
  exact ⟨r, allocation, hr, hallocation⟩

end FairnessGovernor
