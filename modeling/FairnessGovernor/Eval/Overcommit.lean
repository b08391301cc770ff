/-
# Floors that fit, and floors that do not

While the floors fit into the whole every child gets its floor; where they do not, no child gets
more than its floor, and the floors are met in descending obligation rank.  Overcommit is reported
by comparing the floors with the truncated shares: what the rounding leaves over counts as
missing.
-/
import FairnessGovernor.Eval.Allotment

namespace FairnessGovernor

open Apportion Sorting LargestRemainder

variable {children : List AllocationInput} {whole : ℕ}

/-! ## The floors that are met -/

lemma sum_obligationOrder :
    ((obligationOrder children).map (floorAt children)).sum = floorSum children := by
  rw [obligationOrder, ((stdSort_perm _ _).map _).sum_eq, ← List.ofFn_eq_map, List.sum_ofFn]
  rfl

/-- Floors that fit are met in full before anything is shared. -/
lemma metAt_of_fits (hfits : floorSum children ≤ whole) (i : Fin children.length) :
    metAt children whole i =
      floorAt children i + weighedAt children (whole - floorSum children) i := by
  rw [metAt, takes_eq_cap (by rw [sum_obligationOrder]; exact hfits) (by simp [obligationOrder]),
    Nat.add_assoc]
  rfl

/-- While the floors fit, everybody gets its floor. -/
lemma floorAt_le_allotted (hfits : floorSum children ≤ whole) (i : Fin children.length) :
    floorAt children i ≤ allotted children whole i := by
  unfold allotted
  split_ifs with h
  · have hle := @donationAt_le children whole i
    unfold room at hle
    omega
  · rw [metAt_of_fits hfits]
    omega

/-- Where the floors exceed the whole, it is given out in obligation order. -/
lemma allotted_of_exceeds (hpos : 0 < ∑ i, weightAt children i)
    (hexceeds : whole < floorSum children) (i : Fin children.length) :
    allotted children whole i = takes (floorAt children) (obligationOrder children) whole i := by
  have hshares : shareSum children whole ≤ whole := sum_share_le whole rfl hpos
  have hshare : shareAt children 0 i = 0 := by
    unfold shareAt quota
    rw [Nat.zero_mul, Nat.zero_div]
  have hresidue : residueAt children 0 i = 0 := by
    unfold residueAt leftover
    rw [Nat.zero_sub, handOut, List.take_zero, if_neg (by simp)]
  rw [allotted, if_neg (by omega), metAt, Nat.sub_eq_zero_of_le hexceeds.le, hshare, hresidue,
    Nat.add_zero]

/-- Who is of a lower rank than somebody below its floor gets nothing. -/
lemma takes_of_lower_rank {i j : Fin children.length}
    (hrank : (childAt children j).obligationRank < (childAt children i).obligationRank)
    (hbelow : takes (floorAt children) (obligationOrder children) whole i < floorAt children i) :
    takes (floorAt children) (obligationOrder children) whole j = 0 := by
  have hsorted := (obligationBefore_compares children).pairwise_le (List.finRange _)
  refine takes_eq_zero hsorted (by simp [obligationOrder]) ?_ hbelow
  rw [obligationKey, obligationKey, Prod.Lex.toLex_lt_toLex]
  exact .inl hrank

/-- The shortfall of an overcommit is what the floors ask for beyond the whole. -/
lemma shortfall_eq (hpos : 0 < ∑ i, weightAt children i) :
    ∑ i, (floorAt children i - allotted children whole i) = floorSum children - whole := by
  rcases Nat.lt_or_ge whole (floorSum children) with hexceeds | hfits
  · have htaken := sum_takes (nodup_obligationOrder children) (floorAt children) whole
    rw [left_eq, sum_obligationOrder] at htaken
    have hsplit : ∑ i, (floorAt children i - allotted children whole i) +
        ∑ i, takes (floorAt children) (obligationOrder children) whole i =
          floorSum children := by
      rw [← Finset.sum_add_distrib]
      refine Finset.sum_congr rfl fun i _ => ?_
      have hle := takes_le (floorAt children) (obligationOrder children) whole i
      rw [allotted_of_exceeds hpos hexceeds]
      omega
    omega
  · rw [Nat.sub_eq_zero_of_le hfits]
    refine Finset.sum_eq_zero fun i _ => ?_
    have := floorAt_le_allotted hfits i
    omega

/-! ## The postcondition -/

/-- What an allocation of a whole satisfies: it closes over the whole, it meets every floor while
the floors fit, and else it meets them in descending obligation rank. -/
structure MeetsFloors (children : List AllocationInput) (whole : ℕ)
    (allocation : Fin children.length → ℕ) : Prop where
  closes : ∑ i, allocation i = whole
  floors : (children.map (·.floor)).sum ≤ whole → ∀ i, (childAt children i).floor ≤ allocation i
  capped : whole < (children.map (·.floor)).sum → ∀ i, allocation i ≤ (childAt children i).floor
  ranked : whole < (children.map (·.floor)).sum → ∀ i, allocation i < (childAt children i).floor →
    ∀ j, (childAt children j).obligationRank < (childAt children i).obligationRank →
      allocation j = 0

lemma Allocated.meetsFloors {r : AllocationResult} (h : Allocated children whole r)
    (hsum : r.allocations.sum = whole) : MeetsFloors children whole (allotted children whole) := by
  rw [h.allocations, List.sum_ofFn] at hsum
  refine ⟨hsum, fun hfits i => ?_, fun hexceeds i => ?_, fun hexceeds i hbelow j hrank => ?_⟩
  · rw [sum_floorAt] at hfits
    exact floorAt_le_allotted hfits i
  · rw [sum_floorAt] at hexceeds
    rw [allotted_of_exceeds h.weights_pos hexceeds]
    exact takes_le _ _ _ _
  · rw [sum_floorAt] at hexceeds
    rw [allotted_of_exceeds h.weights_pos hexceeds] at hbelow ⊢
    exact takes_of_lower_rank hrank hbelow

/-- In its domain the allocator succeeds, and what it returns meets the floors. -/
theorem allocateWhole_meetsFloors (h : AllocationDomain children whole) :
    ∃ r allocation, allocateWhole children whole = .ok r ∧ r.allocations = List.ofFn allocation ∧
      MeetsFloors children whole allocation := by
  obtain ⟨r, hr, -⟩ := allocateWhole_ok h
  have hallocated := allocateWhole_allotted h.whole_le hr
  exact ⟨r, _, hr, hallocated.allocations,
    hallocated.meetsFloors (allocateWhole_conserves hr).2.2⟩

/-- Three floors of which the weaker two cannot be met. -/
def crowdedChildren : List AllocationInput :=
  [{ key := 1, floor := 5, obligationRank := 2 }, { key := 2, weight := 3, floor := 4 },
    { key := 3, floor := 6, obligationRank := 1 }]

theorem allocateWhole_meetsFloors_crowded : ∃ r allocation,
    allocateWhole crowdedChildren 8 = .ok r ∧ r.allocations = List.ofFn allocation ∧
      MeetsFloors crowdedChildren 8 allocation :=
  allocateWhole_meetsFloors
    ⟨by decide, by decide, by decide, by decide, by decide, by decide⟩

example : (allocateWhole crowdedChildren 8).toOption.map (·.allocations) = some [5, 0, 3] := by
  decide +kernel

/-! ## The report -/

/-- The report says that the floors exceed the whole, and by how much. -/
def ReportsOvercommit (children : List AllocationInput) (whole : ℕ) (r : AllocationResult) :
    Prop :=
  (r.overcommit = true ↔ whole < (children.map (·.floor)).sum) ∧
    r.overcommitShortfall = (children.map (·.floor)).sum - whole

/-- The truncated shares cover the floors, or not even the whole does. -/
def FloorsDecided (children : List AllocationInput) (whole : ℕ) : Prop :=
  (children.map (·.floor)).sum ≤
      (children.map fun child => whole * child.weight / (children.map (·.weight)).sum).sum ∨
    whole < (children.map (·.floor)).sum

lemma shareSum_eq : (children.map fun child =>
    whole * child.weight / (children.map (·.weight)).sum).sum = shareSum children whole := by
  rw [sum_map_childAt, sum_weightAt]
  rfl

/-- Overcommit is reported as it should be exactly where the floors do not lie between the
truncated shares and the whole. -/
theorem reportsOvercommit_iff {r : AllocationResult} (hwhole : whole ≤ kUInt64Max)
    (h : allocateWhole children whole = .ok r) :
    ReportsOvercommit children whole r ↔ FloorsDecided children whole := by
  obtain ⟨hpos, -, hover, hshort⟩ := allocateWhole_allotted hwhole h
  have hshares : shareSum children whole ≤ whole := sum_share_le whole rfl hpos
  unfold ReportsOvercommit FloorsDecided
  rw [shareSum_eq, sum_floorAt, hover, hshort]
  constructor
  · rintro ⟨hreported, -⟩
    rcases Nat.lt_or_ge (shareSum children whole) (floorSum children) with hlt | hge
    · exact .inr (hreported.mp hlt)
    · exact .inl hge
  · rintro (hfits | hexceeds)
    · rw [if_neg (by omega)]
      exact ⟨⟨fun _ => by omega, fun _ => by omega⟩, by omega⟩
    · rw [if_pos (by omega), shortfall_eq hpos]
      exact ⟨⟨fun _ => by omega, fun _ => by omega⟩, rfl⟩

/-- Two equal children share an odd whole; their floors take all of it. -/
def evenPair : List AllocationInput := [{ key := 1, floor := 2 }, { key := 2, floor := 3 }]

theorem reportsOvercommit_iff_even : ∃ r, allocateWhole evenPair 6 = .ok r ∧
    (ReportsOvercommit evenPair 6 r ↔ FloorsDecided evenPair 6) := by
  obtain ⟨r, hr, -⟩ := @allocateWhole_ok evenPair 6
    ⟨by decide, by decide, by decide, by decide, by decide, by decide⟩
  exact ⟨r, hr, reportsOvercommit_iff (by decide) hr⟩

/-- The floors fit into the whole, and overcommit is reported with nothing missing. -/
theorem not_reportsOvercommit : ∃ r, allocateWhole evenPair 5 = .ok r ∧ r.overcommit = true ∧
    r.overcommitShortfall = 0 ∧ ¬ ReportsOvercommit evenPair 5 r := by
  have hall : (allocateWhole evenPair 5).toOption.any (fun r =>
      r.overcommit && decide (r.overcommitShortfall = 0)) = true := by decide +kernel
  obtain ⟨r, hr, hreport⟩ := exists_ok_of_any hall
  obtain ⟨hover, hshort⟩ : r.overcommit = true ∧ r.overcommitShortfall = 0 := by
    simpa using hreport
  exact ⟨r, hr, hover, hshort, fun h => absurd (h.1.mp hover) (by decide)⟩

end FairnessGovernor
