/-
# The numbers of the scenario format

A scenario writes every number as a decimal numeral.  `parse_u64` accumulates the digits with
overflow-checked arithmetic, `parse_i64` reads a sign in front of them and keeps the smallest
signed word apart, because it has no negation.  Both are exact: they accept the numerals whose
value fits and return that value.  `to_decimal` writes the numeral that `parse_u64` reads back.
-/
import FairnessGovernor.Core.Bytes
import FairnessGovernor.Core.Checked

namespace FairnessGovernor

/-- The bytes of a string literal of the source. -/
def ascii (text : String) : ByteBuffer := text.toList.map fun c => UInt8.ofNat c.toNat

/-! ## Parsing -/

/-- `character < '0' || character > '9'` does not hold. -/
def IsDigit (character : UInt8) : Prop := 48 ≤ character.toNat ∧ character.toNat ≤ 57

instance (character : UInt8) : Decidable (IsDigit character) :=
  inferInstanceAs (Decidable (48 ≤ character.toNat ∧ character.toNat ≤ 57))

/-- `character - '0'`. -/
def digitOf (character : UInt8) : ℕ := character.toNat - 48

/-- The loop of `parse_u64` over the characters. -/
def parseDigits : ByteBuffer → ℕ → Option ℕ
  | [], value => some value
  | character :: rest, value =>
    if ¬ IsDigit character then none
    else do
      let value ← checkedMul value 10
      let value ← checkedAdd value (digitOf character)
      parseDigits rest value

/-- `Parser::parse_u64`. -/
def parseU64 (text : ByteBuffer) : Option UInt64 :=
  if text.isEmpty ∨ text.length > 20 then none
  else (parseDigits text 0).map UInt64.ofNat

/-- `Parser::parse_i64`, with the conversions and the negation that would leave the word. -/
def parseI64 (text : ByteBuffer) : Eval (Option ℤ) :=
  if text.isEmpty then .ok none
  else if text.head? = some 45 then
    match parseU64 (text.drop 1) with
    | none => .ok none
    | some magnitude =>
      if magnitude.toNat > kInt64Max + 1 then .ok none
      else if magnitude.toNat = kInt64Max + 1 then .ok (some kInt64Min)
      else do
        let value ← toInt64 magnitude.toNat
        return some (← ineg value)
  else
    match parseU64 text with
    | none => .ok none
    | some value =>
      if value.toNat > kInt64Max then .ok none
      else do return some (← toInt64 value.toNat)

/-- `Parser::parse_u32`. -/
def parseU32 (text : ByteBuffer) : Option UInt32 :=
  match parseU64 text with
  | none => none
  | some value => if value.toNat > 2 ^ 32 - 1 then none else some (UInt32.ofNat value.toNat)

/-- `Parser::parse_i32`. -/
def parseI32 (text : ByteBuffer) : Eval (Option ℤ) := do
  match ← parseI64 text with
  | none => return none
  | some value => if value > 2 ^ 31 - 1 ∨ value < -2 ^ 31 then return none else return some value

/-! ## Rendering -/

/-- The loop of `to_decimal`, which fills the buffer from its end. -/
def decimalLoop : ℕ → ℕ → ByteBuffer → ByteBuffer
  | 0, _, written => written
  | index + 1, value, written =>
    if value = 0 then written
    else decimalLoop index (value / 10) (UInt8.ofNat (48 + value % 10) :: written)

/-- `to_decimal`. -/
def toDecimal (value : UInt64) : ByteBuffer :=
  if value = 0 then [48] else decimalLoop 21 value.toNat []

/-! ## Numerals -/

/-- What a scenario may write for an unsigned number: 1 to 20 decimal digits. -/
def IsNumeral (text : ByteBuffer) : Prop :=
  1 ≤ text.length ∧ text.length ≤ 20 ∧ ∀ character ∈ text, IsDigit character

instance (text : ByteBuffer) : Decidable (IsNumeral text) :=
  inferInstanceAs (Decidable (1 ≤ text.length ∧ text.length ≤ 20 ∧
    ∀ character ∈ text, IsDigit character))

/-- The number a text of digits denotes. -/
def numeralValue (text : ByteBuffer) : ℕ := Nat.ofDigits 10 (text.map digitOf).reverse

@[simp] lemma numeralValue_nil : numeralValue [] = 0 := rfl

lemma numeralValue_cons (character : UInt8) (rest : ByteBuffer) :
    numeralValue (character :: rest) =
      digitOf character * 10 ^ rest.length + numeralValue rest := by
  simp only [numeralValue, List.map_cons, List.reverse_cons, Nat.ofDigits_append,
    Nat.ofDigits_singleton, List.length_reverse, List.length_map]
  ring

/-- The loop continues a prefix of value `value`; once the word overflows, no further digit
brings it back. -/
lemma parseDigits_eq_some {text : ByteBuffer} {value result : ℕ} (hvalue : value ≤ kUInt64Max) :
    parseDigits text value = some result ↔
      (∀ character ∈ text, IsDigit character) ∧
        result = value * 10 ^ text.length + numeralValue text ∧ result ≤ kUInt64Max := by
  induction text generalizing value with
  | nil =>
    simp only [parseDigits, Option.some.injEq, List.length_nil, pow_zero, Nat.mul_one,
      numeralValue_nil, Nat.add_zero, List.not_mem_nil, false_imp_iff, implies_true, true_and]
    omega
  | cons character rest ih =>
    have hpow : 0 < 10 ^ rest.length := by positivity
    -- Horner's rule: a digit is taken in by one multiplication and one addition
    have hsplit : value * 10 ^ (rest.length + 1) + numeralValue (character :: rest) =
        (value * 10 + digitOf character) * 10 ^ rest.length + numeralValue rest := by
      rw [numeralValue_cons]
      ring
    rw [List.length_cons, hsplit, List.forall_mem_cons, parseDigits]
    by_cases hdigit : IsDigit character
    · rw [if_neg (not_not.mpr hdigit)]
      simp only [Option.bind_eq_bind, Option.bind_eq_some_iff, checkedMul_eq_some,
        checkedAdd_eq_some]
      constructor
      · rintro ⟨tens, ⟨-, rfl⟩, next, ⟨hnext, rfl⟩, hrest⟩
        obtain ⟨hdigits, hresult, hle⟩ := (ih hnext).mp hrest
        exact ⟨⟨hdigit, hdigits⟩, hresult, hle⟩
      · rintro ⟨⟨-, hdigits⟩, hresult, hle⟩
        have hnext : value * 10 + digitOf character ≤ kUInt64Max := by
          calc value * 10 + digitOf character
              ≤ (value * 10 + digitOf character) * 10 ^ rest.length :=
                Nat.le_mul_of_pos_right _ hpow
            _ ≤ result := by omega
            _ ≤ kUInt64Max := hle
        exact ⟨_, ⟨by omega, rfl⟩, _, ⟨hnext, rfl⟩, (ih hnext).mpr ⟨hdigits, hresult, hle⟩⟩
    · rw [if_pos hdigit]
      simp [hdigit]

/-- `parse_u64` accepts the numerals whose value is a word, and returns that value. -/
lemma parseU64_eq_some {text : ByteBuffer} {value : UInt64} :
    parseU64 text = some value ↔ IsNumeral text ∧ numeralValue text = value.toNat := by
  unfold parseU64 IsNumeral
  by_cases hlength : text.isEmpty ∨ text.length > 20
  · rw [if_pos hlength]
    have hnot : ¬ (1 ≤ text.length ∧ text.length ≤ 20) := by
      rcases hlength with h | h
      · simp [List.isEmpty_iff.mp h]
      · omega
    simp only [reduceCtorEq, false_iff]
    exact fun h => hnot ⟨h.1.1, h.1.2.1⟩
  · rw [if_neg hlength, Option.map_eq_some_iff]
    rw [not_or, Bool.not_eq_true, List.isEmpty_eq_false_iff, ← List.length_pos_iff] at hlength
    simp only [parseDigits_eq_some (Nat.zero_le _), Nat.zero_mul, Nat.zero_add]
    constructor
    · rintro ⟨result, ⟨hdigits, rfl, hle⟩, rfl⟩
      unfold kUInt64Max at hle
      refine ⟨⟨hlength.1, by omega, hdigits⟩, ?_⟩
      exact (UInt64.toNat_ofNat_of_lt' (show _ < 2 ^ 64 by omega)).symm
    · rintro ⟨⟨-, -, hdigits⟩, heq⟩
      have hlt := value.toNat_lt
      refine ⟨numeralValue text, ⟨hdigits, rfl, ?_⟩, ?_⟩
      · unfold kUInt64Max
        omega
      · rw [heq, UInt64.ofNat_toNat]

/-- What `parse_u64` does on every text. -/
lemma parseU64_eq (text : ByteBuffer) :
    parseU64 text =
      if IsNumeral text ∧ numeralValue text < 2 ^ 64 then some (UInt64.ofNat (numeralValue text))
      else none := by
  split_ifs with h
  · rw [parseU64_eq_some]
    exact ⟨h.1, (UInt64.toNat_ofNat_of_lt' h.2).symm⟩
  · rw [Option.eq_none_iff_forall_ne_some]
    intro value hvalue
    rw [parseU64_eq_some] at hvalue
    have hlt := value.toNat_lt
    exact h ⟨hvalue.1, by omega⟩

/-- What a scenario may write for a signed number, and its value. -/
def signedNumeral (text : ByteBuffer) : Option ℤ :=
  match text with
  | 45 :: magnitude =>
    if IsNumeral magnitude ∧ numeralValue magnitude ≤ 2 ^ 63 then
      some (-(numeralValue magnitude : ℤ))
    else none
  | _ =>
    if IsNumeral text ∧ numeralValue text ≤ 2 ^ 63 - 1 then some (numeralValue text) else none

/-- The magnitude of a negative numeral: the smallest word has no negation and is returned as
it stands. -/
lemma negated_eq {magnitude : ByteBuffer} :
    (match parseU64 magnitude with
      | none => .ok none
      | some m =>
        if m.toNat > kInt64Max + 1 then .ok none
        else if m.toNat = kInt64Max + 1 then .ok (some kInt64Min)
        else do
          let value ← toInt64 m.toNat
          return some (← ineg value) : Eval (Option ℤ)) =
      .ok (if IsNumeral magnitude ∧ numeralValue magnitude ≤ 2 ^ 63 then
        some (-(numeralValue magnitude : ℤ)) else none) := by
  cases hparse : parseU64 magnitude with
  | none =>
    have hnot : ¬ (IsNumeral magnitude ∧ numeralValue magnitude ≤ 2 ^ 63) := by
      rintro ⟨hnumeral, hle⟩
      rw [parseU64_eq, if_pos ⟨hnumeral, by omega⟩] at hparse
      cases hparse
    rw [if_neg hnot]
  | some m =>
    obtain ⟨hnumeral, hvalue⟩ := parseU64_eq_some.mp hparse
    have hmax : kInt64Max + 1 = 2 ^ 63 := by decide
    simp only [hnumeral, true_and, hvalue, hmax]
    -- only below the bound is the value negated; at the bound it is given as a constant
    rcases lt_trichotomy m.toNat (2 ^ 63) with hlt | heq | hgt
    · have hfits : FitsInt64 (-(m.toNat : ℤ)) := by
        rw [fitsInt64_iff]
        omega
      have hcast : toInt64 m.toNat = .ok (m.toNat : ℤ) :=
        toInt64_eq_ok.mpr ⟨by omega, rfl⟩
      rw [if_neg hlt.not_gt, if_neg hlt.ne, if_pos hlt.le, hcast, ok_bind, ineg,
        trap_of_fits hfits]
      rfl
    · rw [heq]
      rfl
    · rw [if_pos hgt, if_neg hgt.not_ge]

/-- The conversion and the negation of `parse_i64` stay in the word. -/
lemma parseI64_eq (text : ByteBuffer) : parseI64 text = .ok (signedNumeral text) := by
  unfold parseI64
  cases text with
  | nil => rfl
  | cons character rest =>
    by_cases hsign : character = 45
    · subst hsign
      exact negated_eq
    · have hspec : signedNumeral (character :: rest) =
          if IsNumeral (character :: rest) ∧ numeralValue (character :: rest) ≤ 2 ^ 63 - 1 then
            some (numeralValue (character :: rest) : ℤ) else none := by
        unfold signedNumeral
        split
        · rename_i magnitude heq
          exact absurd (List.cons.inj heq).1 hsign
        · rfl
      -- without a sign the numeral is that of a word, which has to be below the signed bound
      rw [hspec, if_neg (by simp), if_neg (by simpa using hsign)]
      cases hparse : parseU64 (character :: rest) with
      | none =>
        have hnot : ¬ (IsNumeral (character :: rest) ∧
            numeralValue (character :: rest) ≤ 2 ^ 63 - 1) := by
          rintro ⟨hnumeral, hle⟩
          rw [parseU64_eq, if_pos ⟨hnumeral, by omega⟩] at hparse
          cases hparse
        rw [if_neg hnot]
      | some value =>
        obtain ⟨hnumeral, hvalue⟩ := parseU64_eq_some.mp hparse
        rw [hvalue]
        by_cases hle : value.toNat ≤ kInt64Max
        · have hcast : toInt64 value.toNat = .ok (value.toNat : ℤ) := toInt64_eq_ok.mpr ⟨hle, rfl⟩
          unfold kInt64Max at hle
          simp only [hcast, ok_bind]
          rw [if_neg (by simpa [kInt64Max] using hle), if_pos ⟨hnumeral, hle⟩]
          rfl
        · unfold kInt64Max at *
          simp only [hnumeral, true_and]
          rw [if_pos (by omega), if_neg hle]

/-! ## What is rendered is read back -/

lemma digitOf_ofNat {digit : ℕ} (h : digit < 10) :
    IsDigit (UInt8.ofNat (48 + digit)) ∧ digitOf (UInt8.ofNat (48 + digit)) = digit := by
  have htoNat : (UInt8.ofNat (48 + digit)).toNat = 48 + digit :=
    UInt8.toNat_ofNat_of_lt' (show _ < 2 ^ 8 by omega)
  unfold IsDigit digitOf
  omega

/-- The digits of a value are written in front of what is in the buffer. -/
lemma decimalLoop_eq {index value : ℕ} (h : value < 10 ^ index) (written : ByteBuffer) :
    decimalLoop index value written =
      ((Nat.digits 10 value).reverse.map fun digit => UInt8.ofNat (48 + digit)) ++ written := by
  induction index generalizing value written with
  | zero =>
    have hzero : value = 0 := by simpa using h
    simp [decimalLoop, hzero]
  | succ index ih =>
    rw [decimalLoop]
    by_cases hzero : value = 0
    · simp [hzero]
    · have hdiv : value / 10 < 10 ^ index := by
        rw [Nat.pow_succ] at h
        omega
      rw [if_neg hzero, ih hdiv, Nat.digits_def' (by norm_num) (Nat.pos_of_ne_zero hzero)]
      simp

/-- A text that spells out digits denotes the number of these digits. -/
lemma numeralValue_map {digits : List ℕ} (h : ∀ digit ∈ digits, digit < 10) :
    numeralValue (digits.map fun digit => UInt8.ofNat (48 + digit)) =
      Nat.ofDigits 10 digits.reverse := by
  have hmap : (digits.map fun digit => UInt8.ofNat (48 + digit)).map digitOf = digits := by
    rw [List.map_map]
    conv_rhs => rw [← List.map_id digits]
    exact List.map_congr_left fun digit hdigit => (digitOf_ofNat (h digit hdigit)).2
  rw [numeralValue, hmap]

/-- `to_decimal` writes a numeral of its argument. -/
lemma toDecimal_numeral (value : UInt64) :
    IsNumeral (toDecimal value) ∧ numeralValue (toDecimal value) = value.toNat := by
  unfold toDecimal
  by_cases hzero : value = 0
  · subst hzero
    decide +kernel
  · have hlt := value.toNat_lt
    have hpos : 0 < value.toNat := by
      rw [Nat.pos_iff_ne_zero]
      exact fun h => hzero (UInt64.toNat_inj.mp h)
    have hdigit : ∀ digit ∈ (Nat.digits 10 value.toNat).reverse, digit < 10 := fun digit h =>
      Nat.digits_lt_base (by norm_num) (List.mem_reverse.mp h)
    have hlength : (Nat.digits 10 value.toNat).length ≤ 20 :=
      (Nat.digits_length_le_iff (by norm_num) _).mpr (by omega)
    have hnonempty : Nat.digits 10 value.toNat ≠ [] := Nat.digits_ne_nil_iff_ne_zero.mpr hpos.ne'
    rw [if_neg hzero, decimalLoop_eq (by omega), List.append_nil]
    refine ⟨⟨?_, ?_, ?_⟩, ?_⟩
    · rw [List.length_map, List.length_reverse]
      exact List.length_pos_of_ne_nil hnonempty
    · rw [List.length_map, List.length_reverse]
      exact hlength
    · intro character hcharacter
      obtain ⟨digit, hmem, rfl⟩ := List.mem_map.mp hcharacter
      exact (digitOf_ofNat (hdigit digit hmem)).1
    · rw [numeralValue_map hdigit, List.reverse_reverse, Nat.ofDigits_digits]

/-- Scenario numbers are parsed exactly, and `parse_u64` reads back what `to_decimal` writes. -/
theorem scenario_numbers_exact (text : ByteBuffer) (value : UInt64) :
    parseU64 text =
      (if IsNumeral text ∧ numeralValue text < 2 ^ 64 then
        some (UInt64.ofNat (numeralValue text)) else none) ∧
    parseI64 text = .ok (signedNumeral text) ∧
    parseU64 (toDecimal value) = some value :=
  ⟨parseU64_eq text, parseI64_eq text, parseU64_eq_some.mpr (toDecimal_numeral value)⟩

end FairnessGovernor
