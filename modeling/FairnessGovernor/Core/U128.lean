/-
# Exact 128-bit multiply and divide

Entitlement is a weighted share of a whole, which needs a 128-bit intermediate product.  The
source builds it from 32-bit limbs and divides it by binary restoring division; both are
modelled on natural numbers with the reduction modulo `2 ^ 64` written out wherever a word
of the source is truncated.  `mulWide_toNat`, `divWide_spec` and `mulDiv_eq` say that the
words denote the exact product, quotient and remainder.
-/
import FairnessGovernor.Core.Types

namespace FairnessGovernor

/-- Truncation to a 64-bit word. -/
def word (a : ℕ) : ℕ := a % 2 ^ 64

lemma word_lt (a : ℕ) : word a < 2 ^ 64 := Nat.mod_lt _ (by norm_num)

lemma word_of_lt {a : ℕ} (h : a < 2 ^ 64) : word a = a := Nat.mod_eq_of_lt h

/-- Unsigned 128-bit value as two 64-bit halves. -/
structure U128 where
  lo : ℕ := 0
  hi : ℕ := 0
deriving DecidableEq

namespace U128

/-- The number two halves denote. -/
def toNat (x : U128) : ℕ := x.hi * 2 ^ 64 + x.lo

/-- `fits_u64`. -/
def fitsU64 (x : U128) : Bool := x.hi == 0

end U128

/-- Exact 64x64 → 128 unsigned product by limb expansion. -/
def mulWide (a b : ℕ) : U128 :=
  let aLo := a % 2 ^ 32
  let aHi := a / 2 ^ 32
  let bLo := b % 2 ^ 32
  let bHi := b / 2 ^ 32
  let p0 := word (aLo * bLo)
  let p1 := word (aLo * bHi)
  let p2 := word (aHi * bLo)
  let p3 := word (aHi * bHi)
  let mid := word (p1 + p0 / 2 ^ 32)
  let mid2 := word (p2 + mid % 2 ^ 32)
  let carry := word (mid2 / 2 ^ 32 + mid / 2 ^ 32)
  { lo := word (mid2 * 2 ^ 32) + p0 % 2 ^ 32
    hi := word (p3 + carry) }

/-- The product of two 32-bit limbs leaves room for a further 32-bit carry. -/
lemma limb_mul_le {a b : ℕ} (ha : a < 2 ^ 32) (hb : b < 2 ^ 32) :
    a * b ≤ (2 ^ 32 - 1) * (2 ^ 32 - 1) :=
  Nat.mul_le_mul (by omega) (by omega)

/-- Adding up the four limb products loses no carry. -/
lemma limbs_toNat {q0 q1 q2 q3 : ℕ} (h0 : q0 ≤ (2 ^ 32 - 1) * (2 ^ 32 - 1))
    (h1 : q1 ≤ (2 ^ 32 - 1) * (2 ^ 32 - 1)) (h2 : q2 ≤ (2 ^ 32 - 1) * (2 ^ 32 - 1))
    (h3 : q3 ≤ (2 ^ 32 - 1) * (2 ^ 32 - 1)) :
    let mid := word (word q1 + word q0 / 2 ^ 32)
    let mid2 := word (word q2 + mid % 2 ^ 32)
    let carry := word (mid2 / 2 ^ 32 + mid / 2 ^ 32)
    let lo := word (mid2 * 2 ^ 32) + word q0 % 2 ^ 32
    let hi := word (word q3 + carry)
    hi * 2 ^ 64 + lo = q3 * 2 ^ 64 + (q1 + q2) * 2 ^ 32 + q0 ∧ lo < 2 ^ 64 ∧ hi < 2 ^ 64 := by
  intro mid mid2 carry lo hi
  have hw : ∀ {q : ℕ}, q ≤ (2 ^ 32 - 1) * (2 ^ 32 - 1) → word q = q := fun h =>
    word_of_lt (by omega)
  have hmid : mid = q1 + q0 / 2 ^ 32 := by
    simp only [mid, hw h0, hw h1]
    exact word_of_lt (by omega)
  have hmid2 : mid2 = q2 + mid % 2 ^ 32 := by
    simp only [mid2, hw h2]
    exact word_of_lt (by omega)
  have hcarry : carry = mid2 / 2 ^ 32 + mid / 2 ^ 32 := word_of_lt (by omega)
  have hlo : lo = mid2 % 2 ^ 32 * 2 ^ 32 + q0 % 2 ^ 32 := by
    simp only [lo, word]
    omega
  have hhi : hi = q3 + carry := by
    simp only [hi, hw h3]
    exact word_of_lt (by omega)
  omega

/-- `mul_wide` is the exact product. -/
lemma mulWide_toNat {a b : ℕ} (ha : a < 2 ^ 64) (hb : b < 2 ^ 64) :
    (mulWide a b).toNat = a * b ∧ (mulWide a b).lo < 2 ^ 64 ∧ (mulWide a b).hi < 2 ^ 64 := by
  have haLo : a % 2 ^ 32 < 2 ^ 32 := Nat.mod_lt _ (by norm_num)
  have hbLo : b % 2 ^ 32 < 2 ^ 32 := Nat.mod_lt _ (by norm_num)
  have haHi : a / 2 ^ 32 < 2 ^ 32 := by omega
  have hbHi : b / 2 ^ 32 < 2 ^ 32 := by omega
  have hexpand : a * b = a / 2 ^ 32 * (b / 2 ^ 32) * 2 ^ 64 +
      (a % 2 ^ 32 * (b / 2 ^ 32) + a / 2 ^ 32 * (b % 2 ^ 32)) * 2 ^ 32 +
      a % 2 ^ 32 * (b % 2 ^ 32) := by
    have hda := Nat.div_add_mod a (2 ^ 32)
    have hdb := Nat.div_add_mod b (2 ^ 32)
    calc a * b = (2 ^ 32 * (a / 2 ^ 32) + a % 2 ^ 32) * (2 ^ 32 * (b / 2 ^ 32) + b % 2 ^ 32) := by
          rw [hda, hdb]
      _ = _ := by ring
  have h0 := limb_mul_le haLo hbLo
  have h1 := limb_mul_le haLo hbHi
  have h2 := limb_mul_le haHi hbLo
  have h3 := limb_mul_le haHi hbHi
  -- the four limb products are the only non-linear terms
  obtain ⟨q0, hq0⟩ : ∃ q, q = a % 2 ^ 32 * (b % 2 ^ 32) := ⟨_, rfl⟩
  obtain ⟨q1, hq1⟩ : ∃ q, q = a % 2 ^ 32 * (b / 2 ^ 32) := ⟨_, rfl⟩
  obtain ⟨q2, hq2⟩ : ∃ q, q = a / 2 ^ 32 * (b % 2 ^ 32) := ⟨_, rfl⟩
  obtain ⟨q3, hq3⟩ : ∃ q, q = a / 2 ^ 32 * (b / 2 ^ 32) := ⟨_, rfl⟩
  rw [← hq0, ← hq1, ← hq2, ← hq3] at hexpand
  rw [← hq0] at h0
  rw [← hq1] at h1
  rw [← hq2] at h2
  rw [← hq3] at h3
  have hlimbs := limbs_toNat h0 h1 h2 h3
  simp only [mulWide, U128.toNat]
  rw [← hq0, ← hq1, ← hq2, ← hq3, hexpand]
  exact hlimbs

/-! ## Restoring division -/

/-- The `bit`-th bit of the numerator, read from the half that holds it. -/
def U128.bit (x : U128) (bit : ℕ) : ℕ :=
  if 64 ≤ bit then x.hi / 2 ^ (bit - 64) % 2 else x.lo / 2 ^ bit % 2

/-- The loop state of `div_wide`: the quotient so far and the running remainder. -/
structure DivState where
  quotient : U128 := {}
  remainder : ℕ := 0

/-- One iteration of the division loop, for the bit `bit`. -/
def divStep (numerator : U128) (denominator bit : ℕ) (s : DivState) : DivState :=
  let carryOut := s.remainder / 2 ^ 63 != 0
  let remainder := word (s.remainder * 2) + numerator.bit bit
  if carryOut ∨ denominator ≤ remainder then
    { remainder := word (remainder + 2 ^ 64 - denominator)
      quotient :=
        if 64 ≤ bit then { s.quotient with hi := s.quotient.hi ||| 2 ^ (bit - 64) }
        else { s.quotient with lo := s.quotient.lo ||| 2 ^ bit } }
  else { s with remainder := remainder }

/-- The bits `count - 1, …, 0` still to be processed. -/
def divLoop (numerator : U128) (denominator : ℕ) : ℕ → DivState → DivState
  | 0, s => s
  | bit + 1, s => divLoop numerator denominator bit (divStep numerator denominator bit s)

/-- Result of a 128/64 division. -/
structure Div128Result where
  quotient : U128 := {}
  remainder : ℕ := 0
  divideByZero : Bool := false

/-- Exact 128/64 division by binary restoring division. -/
def divWide (numerator : U128) (denominator : ℕ) : Div128Result :=
  if denominator = 0 then { divideByZero := true }
  else
    let s := divLoop numerator denominator 128 {}
    { quotient := s.quotient, remainder := s.remainder }

lemma bit_eq {x : U128} (hlo : x.lo < 2 ^ 64) {bit : ℕ} (hbit : bit < 128) :
    x.bit bit = x.toNat / 2 ^ bit % 2 := by
  unfold U128.bit U128.toNat
  split_ifs with h
  · obtain ⟨k, rfl⟩ := Nat.exists_eq_add_of_le h
    rw [Nat.add_sub_cancel_left, pow_add, ← Nat.div_div_eq_div_mul]
    congr 2
    omega
  · have hsplit : x.hi * 2 ^ 64 = (x.hi * 2 ^ (63 - bit)) * 2 * 2 ^ bit := by
      have : (2 : ℕ) ^ 64 = 2 ^ (63 - bit) * 2 * 2 ^ bit := by
        rw [← pow_succ, ← pow_add]
        congr 1
        omega
      rw [this]
      ring
    rw [hsplit, Nat.add_comm, Nat.add_mul_div_right _ _ (by positivity), Nat.add_mul_mod_self_right]

/-- The invariant of the division: above the bit `count`, the quotient has been found and the
remainder is the remainder of the prefix. -/
def DivInv (numerator : U128) (denominator count : ℕ) (s : DivState) : Prop :=
  ∃ q, s.quotient.toNat = q * 2 ^ count ∧
    numerator.toNat / 2 ^ count = q * denominator + s.remainder ∧
    s.remainder < denominator ∧ s.quotient.lo < 2 ^ 64 ∧ s.quotient.hi < 2 ^ 64

/-- Setting a bit above which everything else stands adds its weight. -/
lemma lor_two_pow {m k : ℕ} (h : m % 2 ^ (k + 1) = 0) : m ||| 2 ^ k = m + 2 ^ k := by
  obtain ⟨c, rfl⟩ := Nat.dvd_of_mod_eq_zero h
  have hlt : 2 ^ k < 2 ^ (k + 1) := Nat.pow_lt_pow_right (by norm_num) (by omega)
  rw [Nat.two_pow_add_eq_or_of_lt hlt]

lemma toNat_mod {x : U128} (h : x.toNat % 2 ^ 64 = 0) (hlo : x.lo < 2 ^ 64) : x.lo = 0 := by
  unfold U128.toNat at h
  omega

/-- Setting the bit `bit` of a quotient whose low `bit + 1` bits are still clear. -/
lemma setBit_toNat {x : U128} {q bit : ℕ} (hbit : bit < 128) (hlo : x.lo < 2 ^ 64)
    (hhi : x.hi < 2 ^ 64) (hq : x.toNat = q * 2 ^ (bit + 1)) :
    (if 64 ≤ bit then { x with hi := x.hi ||| 2 ^ (bit - 64) }
      else { x with lo := x.lo ||| 2 ^ bit } : U128).toNat = x.toNat + 2 ^ bit ∧
    (if 64 ≤ bit then { x with hi := x.hi ||| 2 ^ (bit - 64) }
      else { x with lo := x.lo ||| 2 ^ bit } : U128).lo < 2 ^ 64 ∧
    (if 64 ≤ bit then { x with hi := x.hi ||| 2 ^ (bit - 64) }
      else { x with lo := x.lo ||| 2 ^ bit } : U128).hi < 2 ^ 64 := by
  split_ifs with h
  · -- the bit is in the high word, and nothing is in the low word yet
    obtain ⟨k, rfl⟩ := Nat.exists_eq_add_of_le h
    have hpow : (2 : ℕ) ^ (64 + k + 1) = 2 ^ 64 * 2 ^ (k + 1) := by ring
    have hlo0 : x.lo = 0 := by
      refine toNat_mod ?_ hlo
      rw [hq, hpow, show q * (2 ^ 64 * 2 ^ (k + 1)) = 2 ^ 64 * (q * 2 ^ (k + 1)) by ring]
      exact Nat.mul_mod_right _ _
    have hhi' : x.hi = q * 2 ^ (k + 1) := by
      unfold U128.toNat at hq
      rw [hlo0, hpow] at hq
      have : x.hi * 2 ^ 64 = q * 2 ^ (k + 1) * 2 ^ 64 := by rw [Nat.add_zero] at hq; rw [hq]; ring
      exact Nat.eq_of_mul_eq_mul_right (by norm_num) this
    have hlor : x.hi ||| 2 ^ k = x.hi + 2 ^ k :=
      lor_two_pow (by rw [hhi']; exact Nat.mul_mod_left _ _)
    refine ⟨?_, hlo, ?_⟩
    · simp only [U128.toNat, Nat.add_sub_cancel_left, hlor]
      ring
    · simp only [Nat.add_sub_cancel_left]
      exact Nat.or_lt_two_pow hhi (Nat.pow_lt_pow_right (by norm_num) (by omega))
  · -- the bit is in the low word, where only higher bits are set
    have hlor : x.lo ||| 2 ^ bit = x.lo + 2 ^ bit := by
      refine lor_two_pow ?_
      have hdvd : (2 : ℕ) ^ (bit + 1) ∣ 2 ^ 64 := Nat.pow_dvd_pow 2 (by omega)
      have htot : (2 : ℕ) ^ (bit + 1) ∣ x.hi * 2 ^ 64 + x.lo := by
        rw [show x.hi * 2 ^ 64 + x.lo = q * 2 ^ (bit + 1) from hq]
        exact Nat.dvd_mul_left _ _
      exact Nat.mod_eq_zero_of_dvd ((Nat.dvd_add_right (Dvd.dvd.mul_left hdvd _)).mp htot)
    refine ⟨?_, ?_, hhi⟩
    · simp only [U128.toNat, hlor]
      ring
    · exact Nat.or_lt_two_pow hlo (Nat.pow_lt_pow_right (by norm_num) (by omega))

/-- One iteration brings one more bit of the numerator into the prefix. -/
lemma divStep_inv {numerator : U128} {denominator bit : ℕ} {s : DivState}
    (hlo : numerator.lo < 2 ^ 64) (hd : denominator < 2 ^ 64) (hbit : bit < 128)
    (h : DivInv numerator denominator (bit + 1) s) :
    DivInv numerator denominator bit (divStep numerator denominator bit s) := by
  obtain ⟨q, hquot, hpre, hrem, hqlo, hqhi⟩ := h
  have hstep : numerator.toNat / 2 ^ bit =
      2 * (q * denominator) + (2 * s.remainder + numerator.bit bit) := by
    have h1 := Nat.div_add_mod (numerator.toNat / 2 ^ bit) 2
    rw [Nat.div_div_eq_div_mul, ← pow_succ, hpre, ← bit_eq hlo hbit] at h1
    rw [← h1]
    ring
  have hb : numerator.bit bit < 2 := by
    rw [bit_eq hlo hbit]
    exact Nat.mod_lt _ (by norm_num)
  -- the shifted remainder, with the bit the word loses, is `2 * remainder + bit`
  have hshift : (s.remainder / 2 ^ 63) * 2 ^ 64 + word (s.remainder * 2) = 2 * s.remainder := by
    unfold word
    omega
  have hcarry : s.remainder / 2 ^ 63 < 2 := by omega
  unfold divStep
  dsimp only
  by_cases hc : (s.remainder / 2 ^ 63 != 0) = true ∨
      denominator ≤ word (s.remainder * 2) + numerator.bit bit
  · -- the bit is set: the shifted remainder holds the denominator once
    have hge : denominator ≤ 2 * s.remainder + numerator.bit bit := by
      rcases hc with hc | hc
      · have hc0 : s.remainder / 2 ^ 63 ≠ 0 := by simpa using hc
        omega
      · omega
    have hval : word (word (s.remainder * 2) + numerator.bit bit + 2 ^ 64 - denominator) =
        2 * s.remainder + numerator.bit bit - denominator := by
      unfold word at *
      omega
    obtain ⟨hset, hset1, hset2⟩ := setBit_toNat hbit hqlo hqhi hquot
    rw [if_pos hc, hval]
    refine ⟨2 * q + 1, ?_, ?_, ?_, hset1, hset2⟩
    · rw [hset, hquot]
      ring
    · rw [hstep, Nat.add_mul, Nat.one_mul, Nat.mul_assoc]
      dsimp only
      omega
    · show 2 * s.remainder + numerator.bit bit - denominator < denominator
      omega
  · rw [if_neg hc]
    simp only [not_or, bne_iff_ne, ne_eq, not_not, not_le] at hc
    have hval : word (s.remainder * 2) = 2 * s.remainder := by omega
    rw [hval] at hc ⊢
    refine ⟨2 * q, ?_, ?_, hc.2, hqlo, hqhi⟩
    · rw [hquot]
      ring
    · rw [hstep, Nat.mul_assoc]

lemma divLoop_inv {numerator : U128} {denominator count : ℕ} {s : DivState}
    (hlo : numerator.lo < 2 ^ 64) (hd : denominator < 2 ^ 64) (hcount : count ≤ 128)
    (h : DivInv numerator denominator count s) :
    DivInv numerator denominator 0 (divLoop numerator denominator count s) := by
  induction count generalizing s with
  | zero => exact h
  | succ bit ih =>
    rw [divLoop]
    exact ih (by omega) (divStep_inv hlo hd (by omega) h)

/-- `div_wide` returns the exact quotient and remainder. -/
lemma divWide_spec {numerator : U128} {denominator : ℕ} (hlo : numerator.lo < 2 ^ 64)
    (hhi : numerator.hi < 2 ^ 64) (hd : denominator < 2 ^ 64) (hd0 : denominator ≠ 0) :
    (divWide numerator denominator).quotient.toNat = numerator.toNat / denominator ∧
    (divWide numerator denominator).remainder = numerator.toNat % denominator ∧
    (divWide numerator denominator).quotient.lo < 2 ^ 64 := by
  have hsmall : numerator.toNat < 2 ^ 128 := by
    unfold U128.toNat
    omega
  have hinit : DivInv numerator denominator 128 {} :=
    ⟨0, by simp [U128.toNat], by rw [Nat.div_eq_of_lt hsmall, Nat.zero_mul]; rfl,
      Nat.pos_of_ne_zero hd0, by simp, by simp⟩
  obtain ⟨q, hquot, hpre, hrem, hqlo, -⟩ := divLoop_inv hlo hd le_rfl hinit
  simp only [pow_zero, Nat.mul_one, Nat.div_one] at hquot hpre
  unfold divWide
  rw [if_neg hd0]
  have hdm : numerator.toNat / denominator = q ∧ numerator.toNat % denominator =
      (divLoop numerator denominator 128 {}).remainder :=
    (Nat.div_mod_unique (Nat.pos_of_ne_zero hd0)).mpr
      ⟨by rw [hpre, Nat.add_comm, Nat.mul_comm], hrem⟩
  exact ⟨by rw [hquot, hdm.1], hdm.2.symm, hqlo⟩

/-! ## Multiply-divide -/

/-- Outcome of an exact `value * multiplier / divisor` evaluation. -/
structure MulDivResult where
  value : ℕ := 0
  remainder : ℕ := 0
  overflow : Bool := false
  divideByZero : Bool := false
deriving DecidableEq

/-- `MulDivResult::ok`. -/
def MulDivResult.ok (r : MulDivResult) : Bool := !r.overflow && !r.divideByZero

/-- Exact floor of `value * multiplier / divisor` with overflow detection. -/
def mulDiv (value multiplier divisor : ℕ) : MulDivResult :=
  if divisor = 0 then { divideByZero := true }
  else
    let divided := divWide (mulWide value multiplier) divisor
    if divided.quotient.fitsU64 then
      { value := divided.quotient.lo, remainder := divided.remainder }
    else { overflow := true }

/-- `mul_div` on 64-bit words, when the quotient fits a word. -/
lemma mulDiv_eq {value multiplier divisor : ℕ} (hv : value < 2 ^ 64) (hm : multiplier < 2 ^ 64)
    (hd : divisor < 2 ^ 64) (hd0 : divisor ≠ 0) (hfit : value * multiplier / divisor < 2 ^ 64) :
    mulDiv value multiplier divisor =
      { value := value * multiplier / divisor, remainder := value * multiplier % divisor } := by
  obtain ⟨hprod, hlo, hhi⟩ := mulWide_toNat hv hm
  obtain ⟨hquot, hrem, hqlo⟩ := divWide_spec hlo hhi hd hd0
  rw [hprod] at hquot hrem
  have hhi0 : (divWide (mulWide value multiplier) divisor).quotient.hi = 0 := by
    rw [← hquot] at hfit
    unfold U128.toNat at hfit
    omega
  have hlo' : (divWide (mulWide value multiplier) divisor).quotient.lo =
      value * multiplier / divisor := by
    rw [← hquot]
    unfold U128.toNat
    omega
  unfold mulDiv
  rw [if_neg hd0]
  simp only [U128.fitsU64, hhi0, beq_self_eq_true, if_true, hlo', hrem]

/-- A share of a whole that is at most the whole always fits. -/
lemma mulDiv_share {value multiplier divisor : ℕ} (hv : value ≤ kUInt64Max)
    (hm : multiplier ≤ divisor) (hd : divisor ≤ kUInt64Max) (hd0 : divisor ≠ 0) :
    mulDiv value multiplier divisor =
      { value := value * multiplier / divisor, remainder := value * multiplier % divisor } := by
  unfold kUInt64Max at *
  refine mulDiv_eq (by omega) (by omega) (by omega) hd0 ?_
  have hle : value * multiplier / divisor ≤ value := by
    calc value * multiplier / divisor ≤ value * divisor / divisor :=
          Nat.div_le_div_right (Nat.mul_le_mul_left _ hm)
      _ = value := Nat.mul_div_cancel _ (Nat.pos_of_ne_zero hd0)
  omega

/-- The two halves `div_wide` returns are words. -/
lemma divWide_hi_lt {numerator : U128} {denominator : ℕ} (hlo : numerator.lo < 2 ^ 64)
    (hhi : numerator.hi < 2 ^ 64) (hd : denominator < 2 ^ 64) (hd0 : denominator ≠ 0) :
    (divWide numerator denominator).quotient.hi < 2 ^ 64 := by
  obtain ⟨hquot, -, -⟩ := divWide_spec hlo hhi hd hd0
  have hle : numerator.toNat / denominator ≤ numerator.toNat := Nat.div_le_self _ _
  rw [← hquot] at hle
  unfold U128.toNat at hle
  omega

/-- `mul_div` on 64-bit words, when the quotient does not fit a word. -/
lemma mulDiv_of_overflow {value multiplier divisor : ℕ} (hv : value < 2 ^ 64)
    (hm : multiplier < 2 ^ 64) (hd : divisor < 2 ^ 64) (hd0 : divisor ≠ 0)
    (hover : 2 ^ 64 ≤ value * multiplier / divisor) :
    mulDiv value multiplier divisor = { overflow := true } := by
  obtain ⟨hprod, hlo, hhi⟩ := mulWide_toNat hv hm
  obtain ⟨hquot, -, hqlo⟩ := divWide_spec hlo hhi hd hd0
  rw [hprod] at hquot
  have hhi0 : (divWide (mulWide value multiplier) divisor).quotient.hi ≠ 0 := by
    intro h0
    rw [← hquot] at hover
    unfold U128.toNat at hover
    omega
  unfold mulDiv
  rw [if_neg hd0]
  simp only [U128.fitsU64, beq_eq_false_iff_ne.mpr hhi0, Bool.false_eq_true, if_false]

/-- Whenever `mul_div` succeeds, it returns the exact quotient. -/
lemma mulDiv_value {value multiplier divisor : ℕ} (hv : value < 2 ^ 64)
    (hm : multiplier < 2 ^ 64) (hd : divisor < 2 ^ 64)
    (hok : (mulDiv value multiplier divisor).ok = true) :
    (mulDiv value multiplier divisor).value = value * multiplier / divisor := by
  have hd0 : divisor ≠ 0 := by
    rintro rfl
    simp [mulDiv, MulDivResult.ok] at hok
  by_cases hfit : value * multiplier / divisor < 2 ^ 64
  · rw [mulDiv_eq hv hm hd hd0 hfit]
  · rw [mulDiv_of_overflow hv hm hd hd0 (Nat.le_of_not_lt hfit)] at hok
    simp [MulDivResult.ok] at hok

/-- The words of the source: the product is exact, the division of any 128-bit numerator is
exact, and `mul_div` fails just where the quotient does not exist or does not fit a word. -/
theorem mulDiv_exact (value multiplier divisor lo hi : UInt64) :
    ((mulWide value.toNat multiplier.toNat).toNat = value.toNat * multiplier.toNat ∧
      (mulWide value.toNat multiplier.toNat).lo < 2 ^ 64 ∧
      (mulWide value.toNat multiplier.toNat).hi < 2 ^ 64) ∧
    (let numerator : U128 := ⟨lo.toNat, hi.toNat⟩
     let divided := divWide numerator divisor.toNat
     (divided.divideByZero = true ↔ divisor = 0) ∧
     (divisor ≠ 0 → divided.quotient.toNat = numerator.toNat / divisor.toNat ∧
       divided.quotient.lo < 2 ^ 64 ∧ divided.quotient.hi < 2 ^ 64 ∧
       numerator.toNat = divided.quotient.toNat * divisor.toNat + divided.remainder ∧
       divided.remainder < divisor.toNat)) ∧
    (let result := mulDiv value.toNat multiplier.toNat divisor.toNat
     (result.divideByZero = true ↔ divisor = 0) ∧
     (result.overflow = true ↔
       divisor ≠ 0 ∧ 2 ^ 64 ≤ value.toNat * multiplier.toNat / divisor.toNat) ∧
     (result.ok = true → result.value < 2 ^ 64 ∧
       value.toNat * multiplier.toNat = result.value * divisor.toNat + result.remainder ∧
       result.remainder < divisor.toNat)) := by
  have hv := value.toNat_lt
  have hm := multiplier.toNat_lt
  have hd := divisor.toNat_lt
  have hzero : divisor = 0 ↔ divisor.toNat = 0 := by
    rw [← UInt64.toNat_inj]
    rfl
  refine ⟨mulWide_toNat hv hm, ⟨?_, ?_⟩, ?_⟩
  · -- the long division reports a zero divisor and nothing else
    rw [hzero]
    unfold divWide
    split_ifs with h <;> simp [h]
  · -- otherwise it is Euclidean division
    intro h0
    have hd0 : divisor.toNat ≠ 0 := fun h => h0 (hzero.mpr h)
    obtain ⟨hquot, hrem, hqlo⟩ := @divWide_spec ⟨lo.toNat, hi.toNat⟩ _
      lo.toNat_lt hi.toNat_lt hd hd0
    refine ⟨hquot, hqlo, divWide_hi_lt lo.toNat_lt hi.toNat_lt hd hd0, ?_, ?_⟩
    · rw [hquot, hrem, Nat.mul_comm, Nat.div_add_mod]
    · rw [hrem]
      exact Nat.mod_lt _ (Nat.pos_of_ne_zero hd0)
  · -- `mul_div`: a zero divisor, a quotient that fits, or one that does not
    simp only [ne_eq, hzero]
    by_cases h0 : divisor.toNat = 0
    · have hz : mulDiv value.toNat multiplier.toNat divisor.toNat = { divideByZero := true } := by
        unfold mulDiv
        rw [if_pos h0]
      rw [hz]
      simp [h0, MulDivResult.ok]
    · by_cases hfit : value.toNat * multiplier.toNat / divisor.toNat < 2 ^ 64
      · rw [mulDiv_eq hv hm hd h0 hfit]
        refine ⟨by simp [h0], by simpa [h0] using hfit, fun _ => ⟨hfit, ?_, ?_⟩⟩
        · rw [Nat.mul_comm _ divisor.toNat, Nat.div_add_mod]
        · exact Nat.mod_lt _ (Nat.pos_of_ne_zero h0)
      · have hover := Nat.le_of_not_lt hfit
        rw [mulDiv_of_overflow hv hm hd h0 hover]
        refine ⟨by simp [h0], by simpa [h0] using hover, fun hok => ?_⟩
        simp [MulDivResult.ok] at hok

end FairnessGovernor
