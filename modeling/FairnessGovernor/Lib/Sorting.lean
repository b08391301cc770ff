/-
# Sorting by a key

A comparator compares a key when it says of two elements whether the key of the one is below the
key of the other; comparators that decide by several criteria in turn compare the lexicographic
key.  Sorting by such a comparator is sorting by the key, and where no two elements share a key
the result depends neither on the order of the input nor on the names of its elements.
-/
import Mathlib.Data.List.NodupEquivFin
import Mathlib.Data.List.Sort
import Mathlib.Data.Prod.Lex
import Mathlib.Tactic

namespace Sorting

variable {α β κ ι : Type} [LinearOrder κ] [LinearOrder ι]

/-- The comparator orders the elements by a key. -/
def Compares (before : α → α → Bool) (key : α → κ) : Prop :=
  ∀ a b, before a b = decide (key a < key b)

variable {before rest : α → α → Bool} {key : α → κ} {xs ys : List α}

/-- A criterion that decides first, before the others. -/
lemma Compares.first (h : Compares rest key) {criterion : α → ι} {differ : α → α → Prop}
    [∀ a b, Decidable (differ a b)] {first : α → α → Bool}
    (hdiffer : ∀ a b, differ a b ↔ criterion a ≠ criterion b)
    (hfirst : ∀ a b, criterion a ≠ criterion b → first a b = decide (criterion a < criterion b)) :
    Compares (fun a b => if differ a b then first a b else rest a b)
      fun a => toLex (criterion a, key a) := by
  intro a b
  dsimp only
  by_cases heq : criterion a = criterion b
  · rw [if_neg (by rw [hdiffer]; exact not_not.mpr heq), h a b, decide_eq_decide,
      Prod.Lex.toLex_lt_toLex]
    simp [heq]
  · rw [if_pos ((hdiffer a b).mpr heq), hfirst a b heq, decide_eq_decide,
      Prod.Lex.toLex_lt_toLex]
    simp [heq]

/-- Sorting by the comparator sorts by the key. -/
lemma Compares.pairwise_le (h : Compares before key) (xs : List α) :
    (xs.insertionSort fun a b => before b a = false).Pairwise fun a b => key a ≤ key b := by
  have hle : ∀ a b, (before b a = false) ↔ key a ≤ key b := by
    intro a b
    rw [h b a, decide_eq_false_iff_not, not_lt]
  have htotal : Std.Total fun a b => before b a = false :=
    ⟨fun a b => by rw [hle, hle]; exact le_total _ _⟩
  have htrans : IsTrans α fun a b => before b a = false :=
    ⟨fun a b c => by rw [hle, hle, hle]; exact le_trans⟩
  exact (List.pairwise_insertionSort _ xs).imp fun {a b} hab => (hle a b).mp hab

/-- Where no two elements share a key, the comparator separates the sorted elements. -/
lemma Compares.pairwise_before (h : Compares before key) (hnodup : xs.Nodup)
    (hinj : ∀ a ∈ xs, ∀ b ∈ xs, key a = key b → a = b) :
    (xs.insertionSort fun a b => before b a = false).Pairwise fun a b => before a b = true := by
  have hperm := List.perm_insertionSort (fun a b => before b a = false) xs
  have hsorted := (h.pairwise_le xs).and (hperm.nodup_iff.mpr hnodup)
  refine hsorted.imp_of_mem fun {a b} ha hb hab => ?_
  rw [h a b, decide_eq_true_iff]
  refine lt_of_le_of_ne hab.1 fun heq => hab.2 ?_
  exact hinj a (hperm.mem_iff.mp ha) b (hperm.mem_iff.mp hb) heq

/-- Where no two elements share a key, sorting does not look at the order of the input. -/
lemma Compares.sort_eq_of_perm (h : Compares before key)
    (hinj : ∀ a ∈ xs, ∀ b ∈ xs, key a = key b → a = b) (hperm : xs.Perm ys) :
    (xs.insertionSort fun a b => before b a = false) =
      ys.insertionSort fun a b => before b a = false := by
  have hxs := List.perm_insertionSort (fun a b => before b a = false) xs
  have hys := List.perm_insertionSort (fun a b => before b a = false) ys
  refine List.Perm.eq_of_pairwise (fun a b ha hb hab hba => ?_) (h.pairwise_le xs)
    (h.pairwise_le ys) (hxs.trans (hperm.trans hys.symm))
  exact hinj a (hxs.mem_iff.mp ha) b (hperm.mem_iff.mpr (hys.mem_iff.mp hb)) (le_antisymm hab hba)

/-! ## Renaming -/

/-- Sorting renamed elements by a comparator that does not see the names is renaming the sorted
elements. -/
lemma Compares.sort_map {before : α → α → Bool} {before' : β → β → Bool} {key' : β → κ}
    {xs : List α} {ys : List β} {f : α → β} (h : Compares before' key')
    (hinj : ∀ a ∈ ys, ∀ b ∈ ys, key' a = key' b → a = b)
    (hbefore : ∀ a b, before' (f a) (f b) = before a b) (hperm : (xs.map f).Perm ys) :
    (ys.insertionSort fun a b => before' b a = false) =
      (xs.insertionSort fun a b => before b a = false).map f := by
  rw [← h.sort_eq_of_perm (fun a ha b hb => hinj a (hperm.mem_iff.mp ha) b (hperm.mem_iff.mp hb))
    hperm]
  refine (List.map_insertionSort _ _ f xs ?_).symm
  intro a _ b _
  rw [hbefore b a]

/-- A permutation of distinct elements moves their positions. -/
lemma exists_renaming {xs ys : List α} (hperm : xs.Perm ys) (hnodup : xs.Nodup) :
    ∃ σ : Fin xs.length ≃ Fin ys.length, ∀ i, ys.get (σ i) = xs.get i := by
  classical
  refine ⟨(hnodup.getEquiv xs).trans ((Equiv.subtypeEquivRight fun a => hperm.mem_iff).trans
    ((hperm.nodup_iff.mp hnodup).getEquiv ys).symm), fun i => ?_⟩
  simp

/-- Where no two elements share a tag, looking one up by its tag does not depend on the order. -/
lemma find?_eq_of_perm {Tag : Type} [DecidableEq Tag] {tag : α → Tag} {xs ys : List α}
    (hnodup : (xs.map tag).Nodup) (hperm : xs.Perm ys) (wanted : Tag) :
    (ys.find? fun a => tag a = wanted) = xs.find? fun a => tag a = wanted := by
  cases hxs : xs.find? fun a => tag a = wanted with
  | none =>
    rw [List.find?_eq_none] at hxs ⊢
    exact fun a ha => hxs a (hperm.mem_iff.mpr ha)
  | some a =>
    have ha := hperm.mem_iff.mp (List.mem_of_find?_eq_some hxs)
    have htag : tag a = wanted := by simpa using List.find?_some hxs
    cases hys : ys.find? fun a => tag a = wanted with
    | none => exact absurd htag (by simpa using List.find?_eq_none.mp hys a ha)
    | some b =>
      have hb := hperm.mem_iff.mpr (List.mem_of_find?_eq_some hys)
      have htag' : tag b = wanted := by simpa using List.find?_some hys
      rw [List.inj_on_of_nodup_map hnodup (hperm.mem_iff.mpr ha) hb (htag.trans htag'.symm)]

end Sorting
