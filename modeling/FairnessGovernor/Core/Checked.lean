/-
# Checked arithmetic on machine words

The helpers for externally influenced sizes report an overflow before it happens and leave
their output argument as it was.  The signed ones guard every operation by a comparison that
itself calculates; they are modelled with trapping operations, so that an intermediate result
outside the word would show.  Addition and multiplication are exact on all words.  Subtraction
negates its second operand and refuses the one word that has no negation, also where the
difference would fit; `signedExact_iff` is the exact condition.
-/
import FairnessGovernor.Core.Types

namespace FairnessGovernor

/-! ## Unsigned words -/

/-- `checked_mul`. -/
def checkedMul (a b : ℕ) : Option ℕ :=
  if a ≠ 0 ∧ kUInt64Max / a < b then none else some (a * b)

lemma checkedMul_eq_some {a b c : ℕ} :
    checkedMul a b = some c ↔ a * b ≤ kUInt64Max ∧ c = a * b := by
  unfold checkedMul
  rcases Nat.eq_zero_or_pos a with rfl | ha
  · simp [eq_comm]
  · have hiff : kUInt64Max / a < b ↔ ¬ a * b ≤ kUInt64Max := by
      rw [Nat.div_lt_iff_lt_mul ha, Nat.mul_comm b a, Nat.not_le]
    by_cases hb : a * b ≤ kUInt64Max
    · have hnot : ¬ (a ≠ 0 ∧ kUInt64Max / a < b) := fun h => hiff.mp h.2 hb
      rw [if_neg hnot]
      simp [hb, eq_comm]
    · rw [if_pos ⟨ha.ne', hiff.mpr hb⟩]
      simp [hb]

/-! ## Signed words -/

/-- The smallest signed 64-bit value. -/
def kInt64Min : ℤ := -2 ^ 63

/-- The values a signed 64-bit word can hold. -/
def FitsInt64 (z : ℤ) : Prop := kInt64Min ≤ z ∧ z ≤ kInt64Max

instance (z : ℤ) : Decidable (FitsInt64 z) :=
  inferInstanceAs (Decidable (kInt64Min ≤ z ∧ z ≤ kInt64Max))

lemma fitsInt64_iff {z : ℤ} : FitsInt64 z ↔ -2 ^ 63 ≤ z ∧ z ≤ 2 ^ 63 - 1 := by
  simp only [FitsInt64, kInt64Min, kInt64Max]
  norm_num

lemma fitsInt64_toInt (a : Int64) : FitsInt64 a.toInt := by
  have hlo := a.le_toInt
  have hhi := a.toInt_lt
  rw [fitsInt64_iff]
  omega

/-- The result of an unchecked signed operation. -/
def trap (z : ℤ) : Eval ℤ := if FitsInt64 z then .ok z else .error .wraps

@[simp] lemma trap_of_fits {z : ℤ} (h : FitsInt64 z) : trap z = .ok z := if_pos h

/-- An unchecked signed addition. -/
def iadd (a b : ℤ) : Eval ℤ := trap (a + b)
/-- An unchecked signed negation. -/
def ineg (a : ℤ) : Eval ℤ := trap (-a)
/-- An unchecked signed multiplication. -/
def imul (a b : ℤ) : Eval ℤ := trap (a * b)
/-- An unchecked signed division, which truncates. -/
def idiv (a b : ℤ) : Eval ℤ := if b = 0 then .error .wraps else trap (a.tdiv b)

lemma isub_eq_trap (a b : ℤ) : isub a b = trap (a - b) := by
  unfold isub trap
  refine if_congr ?_ rfl rfl
  rw [fitsInt64_iff]
  simp only [kInt64Max]
  omega

/-- `checked_add_signed`: the answer and what `out` holds afterwards. -/
def checkedAddSigned (a b out : ℤ) : Eval (Bool × ℤ) := do
  let above ← if 0 < b then do pure (decide (a > (← isub kInt64Max b))) else pure false
  if above then return (false, out)
  let below ← if b < 0 then do pure (decide (a < (← isub kInt64Min b))) else pure false
  if below then return (false, out)
  return (true, ← iadd a b)

/-- `checked_sub_signed`. -/
def checkedSubSigned (a b out : ℤ) : Eval (Bool × ℤ) := do
  if b = kInt64Min then return (false, out)
  checkedAddSigned a (← ineg b) out

/-- The guards of `checked_mul_signed` for the signs of its operands. -/
def mulGuard (a b : ℤ) : Eval Bool :=
  if 0 < a then
    if 0 < b then do pure (decide (a > (← idiv kInt64Max b)))
    else do pure (decide (b < (← idiv kInt64Min a)))
  else
    if 0 < b then do pure (decide (a < (← idiv kInt64Min b)))
    else do pure (decide (a ≠ 0) && decide (b < (← idiv kInt64Max a)))

/-- `checked_mul_signed`. -/
def checkedMulSigned (a b out : ℤ) : Eval (Bool × ℤ) := do
  if a = 0 ∨ b = 0 then return (true, 0)
  if a = -1 ∧ b = kInt64Min then return (false, out)
  if b = -1 ∧ a = kInt64Min then return (false, out)
  let refused ← mulGuard a b
  if refused then return (false, out)
  return (true, ← imul a b)

/-- What a checked operation has to return for the mathematical result `z`. -/
def exactly (z out : ℤ) : Eval (Bool × ℤ) :=
  .ok (if FitsInt64 z then (true, z) else (false, out))

lemma checkedAddSigned_eq {a b : ℤ} (ha : FitsInt64 a) (hb : FitsInt64 b) (out : ℤ) :
    checkedAddSigned a b out = exactly (a + b) out := by
  rw [fitsInt64_iff] at ha hb
  unfold checkedAddSigned exactly
  -- the guard leaves `b` room above the smallest or below the largest word, by the sign of `b`
  rcases lt_trichotomy b 0 with hneg | rfl | hpos
  · have hroom : isub kInt64Min b = .ok (kInt64Min - b) := by
      rw [isub_eq_trap, trap_of_fits]
      rw [fitsInt64_iff, kInt64Min]
      omega
    rw [if_neg hneg.not_gt, if_pos hneg, hroom]
    by_cases hfits : FitsInt64 (a + b)
    · have hge : ¬ a < kInt64Min - b := by
        have := hfits.1
        omega
      simp [iadd, hfits, hge]
    · have hlt : a < kInt64Min - b := by
        rw [fitsInt64_iff] at hfits
        rw [kInt64Min]
        omega
      simp [hfits, hlt]
      rfl
  · have hfits : FitsInt64 a := fitsInt64_iff.mpr ha
    simp [iadd, hfits]
  · have hroom : isub kInt64Max b = .ok (kInt64Max - b) := by
      rw [isub_eq_trap, trap_of_fits]
      rw [fitsInt64_iff, kInt64Max]
      omega
    rw [if_pos hpos, if_neg hpos.not_gt, hroom]
    by_cases hfits : FitsInt64 (a + b)
    · have hle : ¬ kInt64Max - b < a := by
        have := hfits.2
        omega
      simp [iadd, hfits, hle]
    · have hgt : kInt64Max - b < a := by
        rw [fitsInt64_iff] at hfits
        rw [kInt64Max]
        omega
      simp [hfits, hgt]
      rfl

/-- The guard of the subtraction refuses one word, whatever it is subtracted from. -/
lemma checkedSubSigned_eq {a b : ℤ} (ha : FitsInt64 a) (hb : FitsInt64 b) (out : ℤ) :
    checkedSubSigned a b out =
      if b = kInt64Min then .ok (false, out) else exactly (a - b) out := by
  unfold checkedSubSigned
  by_cases hmin : b = kInt64Min
  · rw [if_pos hmin, if_pos hmin]
    rfl
  · have hneg : FitsInt64 (-b) := by
      rw [fitsInt64_iff] at hb ⊢
      rw [kInt64Min] at hmin
      omega
    rw [if_neg hmin, if_neg hmin, ineg, trap_of_fits hneg, ok_bind,
      checkedAddSigned_eq ha hneg, Int.sub_eq_add_neg]

/-! ### The guards of the multiplication -/

lemma tdiv_lt_iff {m c x : ℤ} (hm : 0 ≤ m) (hc : 0 < c) : m.tdiv c < x ↔ m < x * c := by
  rw [Int.tdiv_eq_ediv_of_nonneg hm, Int.ediv_lt_iff_lt_mul hc]

lemma lt_neg_tdiv_iff {m c x : ℤ} (hm : 0 ≤ m) (hc : 0 < c) :
    x < (-m).tdiv c ↔ x * c < -m := by
  rw [Int.neg_tdiv, lt_neg, tdiv_lt_iff hm hc, Int.neg_mul, lt_neg]

lemma lt_tdiv_neg_iff {m c x : ℤ} (hm : 0 ≤ m) (hc : c < 0) : x < m.tdiv c ↔ m < x * c := by
  have hpos : 0 < -c := by omega
  rw [← Int.neg_neg c, Int.tdiv_neg, lt_neg, tdiv_lt_iff hm hpos, Int.neg_mul_neg, Int.neg_neg]

/-- A quotient is no larger than what is divided. -/
lemma fitsInt64_tdiv {m c : ℤ} (hm : FitsInt64 m) (hfloor : m = kInt64Min → 0 < c) :
    FitsInt64 (m.tdiv c) := by
  have hle := Int.natAbs_tdiv_le_natAbs m c
  rw [fitsInt64_iff] at hm ⊢
  by_cases hmin : m = kInt64Min
  · have hsign : m.tdiv c ≤ 0 := by
      rw [hmin, kInt64Min, Int.neg_tdiv]
      have := Int.tdiv_nonneg (show (0 : ℤ) ≤ 2 ^ 63 by norm_num) (hfloor hmin).le
      omega
    omega
  · rw [kInt64Min] at hmin
    omega

lemma idiv_eq_ok {m c : ℤ} (hc : c ≠ 0) (hm : FitsInt64 m) (hfloor : m = kInt64Min → 0 < c) :
    idiv m c = .ok (m.tdiv c) := by
  unfold idiv
  rw [if_neg hc, trap_of_fits (fitsInt64_tdiv hm hfloor)]

/-- The four guards, one for each pair of signs, refuse just the products that do not fit. -/
lemma mulGuard_eq {a b : ℤ} (ha0 : a ≠ 0) (hb0 : b ≠ 0) :
    mulGuard a b = .ok (decide (¬ FitsInt64 (a * b))) := by
  have hmax : FitsInt64 kInt64Max := by decide
  have hmaxFloor : ∀ c : ℤ, (kInt64Max : ℤ) = kInt64Min → 0 < c := fun c h => absurd h (by decide)
  have hmin : FitsInt64 kInt64Min := by decide
  have hmax0 : (0 : ℤ) ≤ kInt64Max := by decide
  have hpow : (0 : ℤ) ≤ 2 ^ 63 := by norm_num
  have hfits : ∀ z : ℤ, FitsInt64 z ↔ ¬ z < kInt64Min ∧ ¬ (kInt64Max : ℤ) < z := by
    intro z
    rw [FitsInt64, not_lt, not_lt]
  have hlow : kInt64Min < 0 := by decide
  unfold mulGuard
  rcases lt_or_gt_of_ne ha0 with ha | ha <;> rcases lt_or_gt_of_ne hb0 with hb | hb
  · -- both negative: the product is positive
    have hprod : 0 < a * b := Int.mul_pos_of_neg_of_neg ha hb
    have hiff : b < (kInt64Max : ℤ).tdiv a ↔ ¬ FitsInt64 (a * b) := by
      rw [lt_tdiv_neg_iff hmax0 ha, hfits, Int.mul_comm]
      omega
    rw [if_neg ha.not_gt, if_neg hb.not_gt, idiv_eq_ok ha0 hmax (hmaxFloor a)]
    simp only [ok_bind, ne_eq, ha0, not_false_eq_true, decide_true, Bool.true_and, hiff]
    rfl
  · have hprod : a * b < 0 := Int.mul_neg_of_neg_of_pos ha hb
    have hiff : a < kInt64Min.tdiv b ↔ ¬ FitsInt64 (a * b) := by
      rw [hfits, kInt64Min, lt_neg_tdiv_iff hpow hb]
      omega
    rw [if_neg ha.not_gt, if_pos hb, idiv_eq_ok hb0 hmin fun _ => hb]
    simp only [ok_bind, hiff]
    rfl
  · have hprod : a * b < 0 := Int.mul_neg_of_pos_of_neg ha hb
    have hiff : b < kInt64Min.tdiv a ↔ ¬ FitsInt64 (a * b) := by
      rw [hfits, kInt64Min, lt_neg_tdiv_iff hpow ha, Int.mul_comm]
      omega
    rw [if_pos ha, if_neg hb.not_gt, idiv_eq_ok ha0 hmin fun _ => ha]
    simp only [ok_bind, hiff]
    rfl
  · have hprod : 0 < a * b := Int.mul_pos ha hb
    have hiff : a > (kInt64Max : ℤ).tdiv b ↔ ¬ FitsInt64 (a * b) := by
      rw [gt_iff_lt, tdiv_lt_iff hmax0 hb, hfits]
      omega
    rw [if_pos ha, if_pos hb, idiv_eq_ok hb0 hmax (hmaxFloor b)]
    simp only [ok_bind, hiff]
    rfl

lemma checkedMulSigned_eq {a b : ℤ} (out : ℤ) :
    checkedMulSigned a b out = exactly (a * b) out := by
  have hextreme : ¬ FitsInt64 (-1 * kInt64Min) := by decide
  unfold checkedMulSigned exactly
  by_cases h0 : a = 0 ∨ b = 0
  · have hprod : a * b = 0 := Int.mul_eq_zero.mpr h0
    have hfits : FitsInt64 0 := by decide
    rw [if_pos h0, hprod, if_pos hfits]
    rfl
  · rw [if_neg h0]
    rw [not_or] at h0
    by_cases h1 : a = -1 ∧ b = kInt64Min
    · rw [if_pos h1, h1.1, h1.2, if_neg hextreme]
      rfl
    · by_cases h2 : b = -1 ∧ a = kInt64Min
      · rw [if_neg h1, if_pos h2, h2.1, h2.2, Int.mul_comm, if_neg hextreme]
        rfl
      · rw [if_neg h1, if_neg h2, mulGuard_eq h0.1 h0.2, ok_bind]
        by_cases hfits : FitsInt64 (a * b)
        · simp [hfits, imul]
        · simp [hfits]
          rfl

/-! ## Exactness -/

/-- On these words every checked operation succeeds just when the mathematical result is a
word, and then `out` is it; otherwise `out` is left as it was.  No step on the way wraps. -/
structure SignedExact (a b : ℤ) : Prop where
  add : ∀ out, checkedAddSigned a b out = exactly (a + b) out
  sub : ∀ out, checkedSubSigned a b out = exactly (a - b) out
  mul : ∀ out, checkedMulSigned a b out = exactly (a * b) out

/-- The checked operations are exact on all words but these: the smallest word, subtracted
from a negative one, has a difference that fits and is refused. -/
theorem signedExact_iff (a b : Int64) :
    SignedExact a.toInt b.toInt ↔ b ≠ Int64.minValue ∨ 0 ≤ a := by
  have ha := fitsInt64_toInt a
  have hb := fitsInt64_toInt b
  have hmin : b = Int64.minValue ↔ b.toInt = kInt64Min := by
    rw [← Int64.toInt_inj]
    rfl
  have hnonneg : 0 ≤ a ↔ 0 ≤ a.toInt := Int64.le_iff_toInt_le
  rw [ne_eq, hmin, hnonneg]
  constructor
  · intro h
    -- from the smallest word the difference to a negative number fits, and is refused
    by_contra hcon
    rw [not_or, not_not] at hcon
    have hfits : FitsInt64 (a.toInt - b.toInt) := by
      rw [hcon.1, fitsInt64_iff, kInt64Min]
      rw [fitsInt64_iff] at ha
      omega
    have hsub := h.sub 0
    rw [checkedSubSigned_eq ha hb, if_pos hcon.1, exactly, if_pos hfits] at hsub
    simp at hsub
  · intro h
    refine ⟨checkedAddSigned_eq ha hb, fun out => ?_, checkedMulSigned_eq⟩
    rw [checkedSubSigned_eq ha hb]
    split_ifs with heq
    · have hover : ¬ FitsInt64 (a.toInt - b.toInt) := by
        rw [heq, fitsInt64_iff, kInt64Min]
        omega
      rw [exactly, if_neg hover]
    · rfl

/-- `-1` less the smallest word is the largest one, and is refused. -/
theorem not_signedExact : ¬ ∀ a b : Int64, SignedExact a.toInt b.toInt := by
  intro h
  exact absurd ((h (-1) Int64.minValue).sub 0) (by decide +kernel)

end FairnessGovernor
