/-
# Digests that absorb one element at a time

A digest whose step loses neither the state nor the element cannot absorb a change: two inputs
that differ in one place have different digests, however long the rest is.
-/
import Mathlib.Logic.Function.Basic
import Mathlib.Data.List.Basic

namespace Digest

variable {σ α : Type*} {step : σ → α → σ}

/-- A step of a digest that loses neither the state nor the element. -/
structure Absorbing (step : σ → α → σ) : Prop where
  state : ∀ a, Function.Injective (step · a)
  element : ∀ s, Function.Injective (step s)

namespace Absorbing

/-- Different states stay different over the same rest. -/
lemma foldl_injective (h : Absorbing step) (rest : List α) :
    Function.Injective (rest.foldl step) := by
  induction rest with
  | nil => exact Function.injective_id
  | cons a rest ih => exact ih.comp (h.state a)

/-- Changing one element changes the digest. -/
lemma foldl_set_ne (h : Absorbing step) {l : List α} {i : ℕ} {a : α} (hi : i < l.length)
    (hne : l[i]? ≠ some a) (s : σ) : (l.set i a).foldl step s ≠ l.foldl step s := by
  induction l generalizing i s with
  | nil => exact absurd hi (Nat.not_lt_zero i)
  | cons b l ih =>
    cases i with
    | zero =>
      intro heq
      have hstep : step s a = step s b := h.foldl_injective l heq
      exact hne (congrArg some (h.element s hstep).symm)
    | succ i => exact ih (Nat.lt_of_succ_lt_succ hi) hne (step s b)

end Absorbing

end Digest
