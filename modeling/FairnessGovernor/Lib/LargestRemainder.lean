/-
# The largest remainder method

A whole is split by weight: everybody gets the weighted share, rounded down, and the units that
the rounding leaves over go to those with the largest remainders, ties to the smaller key.  The
split is exact, it is decided by the weights up to one unit, and raising a weight never lowers
the part of its owner.
-/
import FairnessGovernor.Lib.Apportion
import FairnessGovernor.Lib.Sorting

namespace LargestRemainder

open Apportion Sorting

variable {ι κ : Type} [Fintype ι] [LinearOrder κ]

/-! ## The method -/

section Method

variable (weight : ι → ℕ) (key : ι → κ) (whole : ℕ)

/-- The weighted share, rounded down. -/
def quota (i : ι) : ℕ := whole * weight i / ∑ j, weight j

/-- What the rounding takes from the weighted share, in parts of the total weight. -/
def remainder (i : ι) : ℕ := whole * weight i % ∑ j, weight j

/-- The units that the rounding leaves over. -/
def leftover : ℕ := whole - ∑ i, quota weight whole i

/-- The place in the order of remainders: the largest first, then the smaller key. -/
def standing (i : ι) : ℕᵒᵈ ×ₗ κ := toLex (OrderDual.toDual (remainder weight whole i), key i)

/-- One unit for each of those who stand first. -/
def unit (i : ι) : ℕ :=
  if (Finset.univ.filter fun j => standing weight key whole j < standing weight key whole i).card <
    leftover weight whole then 1 else 0

/-- The part of the whole that the method gives. -/
def split (i : ι) : ℕ := quota weight whole i + unit weight key whole i

end Method

variable {weight : ι → ℕ} {key : ι → κ} {whole : ℕ} {i j : ι}

/-- No share exceeds the whole. -/
lemma quota_le (hpos : 0 < ∑ j, weight j) : quota weight whole i ≤ whole := by
  have hle : weight i ≤ ∑ j, weight j :=
    Finset.single_le_sum (f := weight) (fun _ _ => Nat.zero_le _) (Finset.mem_univ i)
  calc quota weight whole i ≤ whole * (∑ j, weight j) / ∑ j, weight j :=
        Nat.div_le_div_right (Nat.mul_le_mul_left _ hle)
    _ = whole := Nat.mul_div_cancel _ hpos

/-! ## The order of remainders -/

lemma standing_lt_iff : standing weight key whole i < standing weight key whole j ↔
    remainder weight whole j < remainder weight whole i ∨
      remainder weight whole i = remainder weight whole j ∧ key i < key j := by
  rw [standing, standing, Prod.Lex.toLex_lt_toLex]
  rfl

omit [LinearOrder κ] in
lemma standing_injective (hkey : Function.Injective key) :
    Function.Injective (standing weight key whole) := by
  intro i j h
  exact hkey (congrArg (fun s => (ofLex s).2) h)

lemma unit_le : unit weight key whole i ≤ 1 := by
  unfold unit
  split_ifs <;> omega

/-- Who stands before somebody with a unit has a unit. -/
lemma unit_le_unit (h : standing weight key whole i < standing weight key whole j) :
    unit weight key whole j ≤ unit weight key whole i := by
  unfold unit
  have hcard : (Finset.univ.filter fun k =>
      standing weight key whole k < standing weight key whole i).card ≤
      (Finset.univ.filter fun k =>
        standing weight key whole k < standing weight key whole j).card := by
    refine Finset.card_le_card fun k hk => ?_
    simp only [Finset.mem_filter, Finset.mem_univ, true_and] at hk ⊢
    exact hk.trans h
  split_ifs <;> omega

/-- A unit is decided by the order of remainders. -/
lemma standing_lt_of_unit (hkey : Function.Injective key) (hi : unit weight key whole i = 1)
    (hj : unit weight key whole j = 0) :
    standing weight key whole i < standing weight key whole j := by
  rcases lt_trichotomy (standing weight key whole i) (standing weight key whole j) with h | h | h
  · exact h
  · rw [standing_injective hkey h, hj] at hi
    cases hi
  · have hle := unit_le_unit h
    omega

/-! ## The split is exact -/

lemma leftover_le_card (hpos : 0 < ∑ i, weight i) : leftover weight whole ≤ Fintype.card ι := by
  have h : whole ≤ ∑ i, whole * weight i / (∑ i, weight i) + Fintype.card ι :=
    whole_le_sum_share whole rfl hpos
  unfold leftover quota
  omega

variable [DecidableEq ι]

/-- As many units are handed out as there are left over. -/
lemma sum_unit (hkey : Function.Injective key) (hpos : 0 < ∑ i, weight i) :
    ∑ i, unit weight key whole i = leftover weight whole := by
  obtain ⟨before, hbefore⟩ : ∃ before : ι → ι → Bool, before = fun a b =>
      decide (standing weight key whole a < standing weight key whole b) := ⟨_, rfl⟩
  have hcompares : Compares before (standing weight key whole) := fun a b => by rw [hbefore]
  have hasymm : ∀ a b, before a b = true → before b a = false := by
    intro a b hab
    rw [hcompares a b, decide_eq_true_iff] at hab
    rw [hcompares b a, decide_eq_false_iff_not]
    exact lt_asymm hab
  obtain ⟨order, horder⟩ : ∃ order, order =
      (Finset.univ : Finset ι).toList.insertionSort fun a b => before b a = false := ⟨_, rfl⟩
  have hperm : order.Perm (Finset.univ : Finset ι).toList :=
    horder ▸ List.perm_insertionSort _ _
  have hnodup : order.Nodup := hperm.nodup_iff.mpr (Finset.nodup_toList _)
  have hsorted : order.Pairwise fun a b => before a b = true :=
    horder ▸ hcompares.pairwise_before (Finset.nodup_toList _)
      fun a _ b _ h => standing_injective hkey h
  -- a unit goes to whoever stands among the first in the sorted order
  have hunit : ∀ i, unit weight key whole i = handOut order (leftover weight whole) i := by
    intro i
    rw [handOut_eq hsorted hasymm (hperm.mem_iff.mpr (by simp)), unit,
      ← List.toFinset_card_of_nodup (hnodup.filter _)]
    congr 3
    ext k
    simp [hperm.mem_iff, hcompares k i]
  have hlength : order.length = Fintype.card ι := by
    rw [hperm.length_eq, Finset.length_toList, Finset.card_univ]
  rw [Finset.sum_congr rfl fun i _ => hunit i]
  exact sum_handOut hnodup (hlength ▸ leftover_le_card hpos)

/-- Nothing of the whole is lost, and nothing is created. -/
theorem sum_split (hkey : Function.Injective key) (hpos : 0 < ∑ i, weight i) :
    ∑ i, split weight key whole i = whole := by
  have hle : ∑ i, whole * weight i / (∑ i, weight i) ≤ whole := sum_share_le whole rfl hpos
  unfold split
  rw [Finset.sum_add_distrib, sum_unit hkey hpos]
  unfold leftover quota
  omega

/-! ## Raising a weight -/

section Raised

variable {weight' : ι → ℕ} (hraised : weight i ≤ weight' i)
  (hsame : ∀ j, j ≠ i → weight' j = weight j) (hpos : 0 < ∑ j, weight j)

include hraised hsame

lemma sum_raised : ∑ j, weight' j = ∑ j, weight j + (weight' i - weight i) := by
  have hrest : ∑ j ∈ Finset.univ.erase i, weight' j = ∑ j ∈ Finset.univ.erase i, weight j :=
    Finset.sum_congr rfl fun j hj => hsame j (Finset.ne_of_mem_erase hj)
  have h := Finset.add_sum_erase Finset.univ weight (Finset.mem_univ i)
  have h' := Finset.add_sum_erase Finset.univ weight' (Finset.mem_univ i)
  omega

include hpos

/-- The share of the raised one does not shrink. -/
lemma quota_le_of_raised : quota weight whole i ≤ quota weight' whole i := by
  have hsum := sum_raised hraised hsame
  have hwhole : quota weight whole i ≤ whole := quota_le hpos
  obtain ⟨d, hd⟩ : ∃ d, weight' i = weight i + d := ⟨_, (Nat.add_sub_cancel' hraised).symm⟩
  rw [hd, Nat.add_sub_cancel_left] at hsum
  show quota weight whole i ≤ whole * weight' i / ∑ j, weight' j
  rw [Nat.le_div_iff_mul_le (by omega), hsum, hd, Nat.mul_add, Nat.mul_add]
  exact Nat.add_le_add (Nat.div_mul_le_self _ _) (Nat.mul_le_mul_right _ hwhole)

/-- The shares of the others do not grow. -/
lemma quota_raised_le (hj : j ≠ i) : quota weight' whole j ≤ quota weight whole j := by
  have hsum := sum_raised hraised hsame
  unfold quota
  rw [hsame j hj]
  exact Nat.div_le_div_left (by omega) hpos

/-- Where the share stays the same, the remainder does not shrink. -/
lemma remainder_le_of_raised (hquota : quota weight' whole i = quota weight whole i) :
    remainder weight whole i ≤ remainder weight' whole i := by
  have hsum := sum_raised hraised hsame
  have hwhole : quota weight whole i ≤ whole := quota_le hpos
  obtain ⟨d, hd⟩ : ∃ d, weight' i = weight i + d := ⟨_, (Nat.add_sub_cancel' hraised).symm⟩
  rw [hd, Nat.add_sub_cancel_left] at hsum
  have hdiv : (∑ j, weight j) * quota weight whole i + remainder weight whole i =
      whole * weight i := Nat.div_add_mod _ _
  have hdiv' : (∑ j, weight' j) * quota weight' whole i + remainder weight' whole i =
      whole * weight' i := Nat.div_add_mod _ _
  rw [hquota, hsum, hd, Nat.add_mul, Nat.mul_add] at hdiv'
  have hstep : d * quota weight whole i ≤ whole * d := by
    rw [Nat.mul_comm whole d]
    exact Nat.mul_le_mul_left _ hwhole
  omega

omit hpos in
/-- Where the share of another stays the same, its remainder does not grow. -/
lemma remainder_raised_le (hj : j ≠ i) (hquota : quota weight' whole j = quota weight whole j) :
    remainder weight' whole j ≤ remainder weight whole j := by
  have hsum := sum_raised hraised hsame
  have hdiv : (∑ j, weight j) * quota weight whole j + remainder weight whole j =
      whole * weight j := Nat.div_add_mod _ _
  have hdiv' : (∑ j, weight' j) * quota weight' whole j + remainder weight' whole j =
      whole * weight' j := Nat.div_add_mod _ _
  rw [hquota, hsum, hsame j hj, Nat.add_mul] at hdiv'
  omega

/-- Raising a weight never lowers the part of its owner. -/
theorem split_le_of_raised (hkey : Function.Injective key) :
    split weight key whole i ≤ split weight' key whole i := by
  by_contra hlower
  rw [not_le] at hlower
  have hpos' : 0 < ∑ j, weight' j := by
    have := sum_raised hraised hsame
    omega
  have hquota : quota weight whole i ≤ quota weight' whole i :=
    quota_le_of_raised hraised hsame hpos
  -- the owner loses its unit, and keeps its share
  have hunit := @unit_le ι κ _ _ weight key whole i
  have hown : unit weight key whole i = 1 ∧ unit weight' key whole i = 0 ∧
      quota weight' whole i = quota weight whole i := by
    unfold split at hlower
    omega
  -- so somebody else gains one
  obtain ⟨j, hgain⟩ : ∃ j, split weight key whole j < split weight' key whole j := by
    by_contra hnone
    push Not at hnone
    have hlt := Finset.sum_lt_sum (fun j _ => hnone j) ⟨i, Finset.mem_univ i, hlower⟩
    rw [sum_split hkey hpos, sum_split hkey hpos'] at hlt
    exact absurd hlt (lt_irrefl _)
  have hj : j ≠ i := by
    rintro rfl
    omega
  have hquotaj : quota weight' whole j ≤ quota weight whole j :=
    quota_raised_le hraised hsame hpos hj
  have hunitj := @unit_le ι κ _ _ weight' key whole j
  have hother : unit weight key whole j = 0 ∧ unit weight' key whole j = 1 ∧
      quota weight' whole j = quota weight whole j := by
    unfold split at hgain
    omega
  -- but the owner stood before it, and still does
  have hbefore := standing_lt_of_unit hkey hown.1 hother.1
  have hremainder := remainder_le_of_raised hraised hsame hpos hown.2.2
  have hremainderj := remainder_raised_le hraised hsame hj hother.2.2
  have hafter : standing weight' key whole i < standing weight' key whole j := by
    rw [standing_lt_iff] at hbefore ⊢
    rcases hbefore with h | ⟨h, hk⟩
    · exact .inl (by omega)
    · rcases Nat.lt_or_ge (remainder weight' whole j) (remainder weight' whole i) with hlt | hge
      · exact .inl hlt
      · exact .inr ⟨by omega, hk⟩
  have hle := unit_le_unit hafter
  omega

end Raised

end LargestRemainder
