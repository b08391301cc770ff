/-
# Apportionment

Three ways to split a number among indices, and what each of them conserves.

* *Truncated shares*: each index gets its weighted share, rounded down; what the rounding
  leaves over is less than the number of indices.
* *Taking up to a cap*: a budget is handed out in a fixed order, each index taking what it
  can from what the ones before it left; the budget is used up as far as the caps allow.
* *Single units* for the first indices of an order.

Renaming the indices renames what they get.
-/
import Mathlib.Algebra.BigOperators.Group.Finset.Basic
import Mathlib.Algebra.Order.BigOperators.Group.Finset
import Mathlib.Tactic

namespace Apportion

/-! ## Truncated shares -/

section Shares

variable {ι : Type} [Fintype ι] {weight : ι → ℕ} {total : ℕ} (whole : ℕ)

lemma sum_share_add_residue (htotal : total = ∑ i, weight i) :
    total * ∑ i, whole * weight i / total + ∑ i, whole * weight i % total = whole * total := by
  calc total * ∑ i, whole * weight i / total + ∑ i, whole * weight i % total
      = ∑ i, (total * (whole * weight i / total) + whole * weight i % total) := by
        rw [Finset.mul_sum, Finset.sum_add_distrib]
    _ = ∑ i, whole * weight i := Finset.sum_congr rfl fun i _ => Nat.div_add_mod _ _
    _ = whole * total := by rw [← Finset.mul_sum, htotal]

/-- The truncated shares stay within the whole. -/
lemma sum_share_le (htotal : total = ∑ i, weight i) (hpos : 0 < total) :
    ∑ i, whole * weight i / total ≤ whole := by
  have h := sum_share_add_residue whole htotal
  have hle : total * ∑ i, whole * weight i / total ≤ total * whole := by
    rw [Nat.mul_comm total whole]
    omega
  exact Nat.le_of_mul_le_mul_left hle hpos

/-- What the rounding leaves over is at most one unit per index. -/
lemma whole_le_sum_share (htotal : total = ∑ i, weight i) (hpos : 0 < total) :
    whole ≤ ∑ i, whole * weight i / total + Fintype.card ι := by
  have h := sum_share_add_residue whole htotal
  have hres : ∑ i, whole * weight i % total ≤ Fintype.card ι * total := by
    calc ∑ i, whole * weight i % total ≤ ∑ _i : ι, total :=
          Finset.sum_le_sum fun i _ => (Nat.mod_lt _ hpos).le
      _ = Fintype.card ι * total := by rw [Finset.sum_const, Finset.card_univ, smul_eq_mul]
  have hle : total * whole ≤ total * (∑ i, whole * weight i / total + Fintype.card ι) := by
    rw [Nat.mul_add, Nat.mul_comm total whole, Nat.mul_comm total (Fintype.card ι)]
    omega
  exact Nat.le_of_mul_le_mul_left hle hpos

end Shares

variable {ι : Type} [DecidableEq ι]

/-! ## Taking up to a cap -/

/-- What each index takes of `budget`, when the indices are served in `order`. -/
def takes (cap : ι → ℕ) : List ι → ℕ → ι → ℕ
  | [], _, _ => 0
  | i :: rest, budget, j =>
    if j = i then min (cap i) budget else takes cap rest (budget - min (cap i) budget) j

/-- What remains of `budget`. -/
def left (cap : ι → ℕ) : List ι → ℕ → ℕ
  | [], budget => budget
  | i :: rest, budget => left cap rest (budget - min (cap i) budget)

variable {cap : ι → ℕ} {order : List ι} {budget : ℕ} {j : ι}

lemma takes_le (cap : ι → ℕ) (order : List ι) (budget : ℕ) (j : ι) :
    takes cap order budget j ≤ cap j := by
  induction order generalizing budget with
  | nil => exact Nat.zero_le _
  | cons i rest ih =>
    rw [takes]
    split_ifs with h
    · rw [h]
      exact Nat.min_le_left _ _
    · exact ih _

lemma takes_of_notMem (h : j ∉ order) : takes cap order budget j = 0 := by
  induction order generalizing budget with
  | nil => rfl
  | cons i rest ih =>
    rw [List.mem_cons, not_or] at h
    rw [takes, if_neg h.1, ih h.2]

omit [DecidableEq ι] in
/-- The budget is used up as far as the caps allow. -/
lemma left_eq : left cap order budget = budget - (order.map cap).sum := by
  induction order generalizing budget with
  | nil => simp [left]
  | cons i rest ih =>
    rw [left, ih, List.map_cons, List.sum_cons]
    omega

omit [DecidableEq ι] in
lemma left_le : left cap order budget ≤ budget := by
  rw [left_eq]
  omega

/-- Nothing is lost: what was taken and what remains is the budget. -/
lemma sum_takes [Fintype ι] (h : order.Nodup) (cap : ι → ℕ) (budget : ℕ) :
    ∑ j, takes cap order budget j + left cap order budget = budget := by
  induction order generalizing budget with
  | nil => simp [takes, left]
  | cons i rest ih =>
    rw [List.nodup_cons] at h
    have hsplit : ∀ j, takes cap (i :: rest) budget j =
        (if j = i then min (cap i) budget else 0) +
          takes cap rest (budget - min (cap i) budget) j := by
      intro j
      rw [takes]
      split_ifs with hj
      · rw [hj, takes_of_notMem h.1, Nat.add_zero]
      · rw [Nat.zero_add]
    have hrest := ih h.2 (budget - min (cap i) budget)
    simp only [hsplit, Finset.sum_add_distrib, Finset.sum_ite_eq', Finset.mem_univ, if_true, left]
    omega

/-- All caps are taken in full when the budget covers them. -/
lemma takes_eq_cap (h : (order.map cap).sum ≤ budget) (hj : j ∈ order) :
    takes cap order budget j = cap j := by
  induction order generalizing budget with
  | nil => simp at hj
  | cons i rest ih =>
    rw [List.map_cons, List.sum_cons] at h
    rw [takes]
    split_ifs with hji
    · rw [hji]
      omega
    · exact ih (by omega) (by simpa [hji] using hj)

/-- Who is served after somebody whose cap was not reached takes nothing. -/
lemma takes_eq_zero {κ : Type} [Preorder κ] {key : ι → κ} {i : ι}
    (horder : order.Pairwise fun a b => key a ≤ key b) (hi : i ∈ order) (hij : key i < key j)
    (hshort : takes cap order budget i < cap i) : takes cap order budget j = 0 := by
  induction order generalizing budget with
  | nil => cases hi
  | cons k rest ih =>
    rw [List.pairwise_cons] at horder
    have hnone : ∀ (order : List ι) (j : ι), takes cap order 0 j = 0 := by
      intro order j
      induction order with
      | nil => rfl
      | cons k rest ih =>
        rw [takes, Nat.min_zero, Nat.sub_zero, ih]
        split_ifs <;> rfl
    rw [takes] at hshort ⊢
    by_cases hik : i = k
    · -- the budget ended here
      have hne : j ≠ k := by
        rintro rfl
        rw [hik] at hij
        exact lt_irrefl _ hij
      rw [if_pos hik, hik] at hshort
      have hspent : budget - min (cap k) budget = 0 := by omega
      rw [if_neg hne, hspent, hnone]
    · have hrest : i ∈ rest := (List.mem_cons.mp hi).resolve_left hik
      have hne : j ≠ k := by
        rintro rfl
        exact lt_irrefl _ (hij.trans_le (horder.1 i hrest))
      rw [if_neg hik] at hshort
      rw [if_neg hne]
      exact ih horder.2 hrest hshort

/-! ## Handing out single units -/

/-- One unit for each of the first `count` indices of `order`. -/
def handOut (order : List ι) (count : ℕ) (j : ι) : ℕ := if j ∈ order.take count then 1 else 0

lemma handOut_le : handOut order budget j ≤ 1 := by
  unfold handOut
  split_ifs <;> omega

lemma sum_handOut [Fintype ι] {count : ℕ} (h : order.Nodup) (hcount : count ≤ order.length) :
    ∑ j, handOut order count j = count := by
  have hset : Finset.univ.filter (fun j => j ∈ order.take count) = (order.take count).toFinset := by
    ext j
    simp
  unfold handOut
  rw [Finset.sum_boole, hset,
    List.toFinset_card_of_nodup (h.sublist (List.take_sublist _ _)), List.length_take,
    Nat.min_eq_left hcount, Nat.cast_id]

/-! ## Orders that a comparator separates -/

section Separated

variable {before : ι → ι → Bool} {i : ι} {rest : List ι}

omit [DecidableEq ι] in
/-- Nobody comes before the first one. -/
lemma filter_before_first (hfirst : ∀ k ∈ rest, before i k = true)
    (hasymm : ∀ a b, before a b = true → before b a = false) :
    (i :: rest).filter (fun k => before k i) = [] := by
  rw [List.filter_eq_nil_iff]
  intro k hk hbefore
  rcases List.mem_cons.mp hk with rfl | hrest
  · have hself := hasymm _ _ hbefore
    rw [hbefore] at hself
    cases hself
  · have hback := hasymm _ _ (hfirst k hrest)
    rw [hbefore] at hback
    cases hback

variable (horder : order.Pairwise fun a b => before a b = true)
  (hasymm : ∀ a b, before a b = true → before b a = false) (hj : j ∈ order)

include horder hasymm hj

/-- An index takes what its cap allows of what the ones before it left. -/
lemma takes_eq : takes cap order budget j =
    min (cap j) (budget - ((order.filter fun i => before i j).map cap).sum) := by
  induction order generalizing budget with
  | nil => cases hj
  | cons i rest ih =>
    rw [List.pairwise_cons] at horder
    rw [takes]
    by_cases hji : j = i
    · rw [if_pos hji, hji, filter_before_first horder.1 hasymm]
      simp
    · have hrest : j ∈ rest := (List.mem_cons.mp hj).resolve_left hji
      have hfirst : (i :: rest).filter (fun k => before k j) =
          i :: rest.filter (fun k => before k j) := List.filter_cons_of_pos (horder.1 j hrest)
      rw [if_neg hji, ih horder.2 hrest, hfirst, List.map_cons, List.sum_cons]
      omega

/-- An index is handed a unit when there are units left after those before it. -/
lemma handOut_eq (count : ℕ) : handOut order count j =
    if (order.filter fun i => before i j).length < count then 1 else 0 := by
  unfold handOut
  congr 1
  rw [eq_iff_iff]
  induction order generalizing count with
  | nil => cases hj
  | cons i rest ih =>
    rw [List.pairwise_cons] at horder
    cases count with
    | zero => simp
    | succ count =>
      rw [List.take_succ_cons, List.mem_cons]
      by_cases hji : j = i
      · rw [hji, filter_before_first horder.1 hasymm]
        simp
      · have hrest : j ∈ rest := (List.mem_cons.mp hj).resolve_left hji
        have hfirst : (i :: rest).filter (fun k => before k j) =
            i :: rest.filter (fun k => before k j) := List.filter_cons_of_pos (horder.1 j hrest)
        rw [hfirst, List.length_cons, Nat.succ_lt_succ_iff, ← ih horder.2 hrest]
        simp [hji]

end Separated

/-! ## Renaming -/

section Renaming

variable {ι ι' : Type} [DecidableEq ι] [DecidableEq ι'] {f : ι → ι'}

lemma takes_map (hf : Function.Injective f) (cap' : ι' → ℕ) (order : List ι) (budget : ℕ) (j : ι) :
    takes cap' (order.map f) budget (f j) = takes (fun i => cap' (f i)) order budget j := by
  induction order generalizing budget with
  | nil => rfl
  | cons i rest ih =>
    rw [List.map_cons, takes, takes, ih]
    simp only [hf.eq_iff]

omit [DecidableEq ι] [DecidableEq ι'] in
lemma left_map (cap' : ι' → ℕ) (order : List ι) (budget : ℕ) :
    left cap' (order.map f) budget = left (fun i => cap' (f i)) order budget := by
  induction order generalizing budget with
  | nil => rfl
  | cons i rest ih =>
    rw [List.map_cons, left, left, ih]

lemma handOut_map (hf : Function.Injective f) (order : List ι) (count : ℕ) (j : ι) :
    handOut (order.map f) count (f j) = handOut order count j := by
  unfold handOut
  rw [← List.map_take]
  simp only [List.mem_map_of_injective hf]

end Renaming

end Apportion
