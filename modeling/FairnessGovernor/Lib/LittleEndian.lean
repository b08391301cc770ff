/-
# Little-endian words and decoders

Fixed-width words as byte strings, and decoders over a byte string: a decoder either takes
what it needs from the front, or ends in an error.  That a format is read back from what was
written is composed from the `Decodes` facts of its fields.
-/
import Mathlib.Data.Nat.Digits.Lemmas
import Mathlib.Tactic

namespace LittleEndian

/-! ## Words -/

/-- The `width` low bytes of `n`, least significant first. -/
def leBytes : ℕ → ℕ → List UInt8
  | 0, _ => []
  | width + 1, n => UInt8.ofNat n :: leBytes width (n / 256)

/-- The number that little-endian bytes denote. -/
def leValue (bytes : List UInt8) : ℕ := Nat.ofDigits 256 (bytes.map UInt8.toNat)

@[simp] lemma length_leBytes (width n : ℕ) : (leBytes width n).length = width := by
  induction width generalizing n with
  | zero => rfl
  | succ width ih => simp [leBytes, ih]

/-- Reading a word back gives the bytes that fit. -/
lemma leValue_leBytes (width n : ℕ) : leValue (leBytes width n) = n % 256 ^ width := by
  induction width generalizing n with
  | zero => simp [leBytes, leValue, Nat.mod_one]
  | succ width ih =>
    have ih' : Nat.ofDigits 256 ((leBytes width (n / 256)).map UInt8.toNat) =
        n / 256 % 256 ^ width := ih (n / 256)
    rw [leBytes, leValue, List.map_cons, Nat.ofDigits_cons, ih', pow_succ', Nat.mod_mul]
    simp

lemma leValue_leBytes_of_lt {width n : ℕ} (h : n < 256 ^ width) :
    leValue (leBytes width n) = n := by
  rw [leValue_leBytes, Nat.mod_eq_of_lt h]

lemma leValue_lt (bytes : List UInt8) : leValue bytes < 256 ^ bytes.length := by
  have h := Nat.ofDigits_lt_base_pow_length (b := 256) (l := bytes.map UInt8.toNat) (by norm_num)
    (fun d hd => by
      obtain ⟨b, -, rfl⟩ := List.mem_map.mp hd
      exact b.toNat_lt)
  rwa [List.length_map] at h

lemma leValue_cons (byte : UInt8) (bytes : List UInt8) :
    leValue (byte :: bytes) = byte.toNat + 256 * leValue bytes := by
  rw [leValue, List.map_cons, Nat.ofDigits_cons]
  rfl

/-- Writing back what was read gives the bytes that were read. -/
lemma leBytes_leValue (bytes : List UInt8) : leBytes bytes.length (leValue bytes) = bytes := by
  induction bytes with
  | nil => rfl
  | cons byte bytes ih =>
    have hlow : UInt8.ofNat (byte.toNat + 256 * leValue bytes) = byte := by
      rw [← UInt8.toNat_inj, UInt8.toNat_ofNat']
      have := byte.toNat_lt
      omega
    have hrest : (byte.toNat + 256 * leValue bytes) / 256 = leValue bytes := by
      have := byte.toNat_lt
      omega
    rw [leValue_cons, List.length_cons, leBytes, hlow, hrest, ih]

/-! ## Decoders -/

/-- A decoder takes a value from the front of a byte string, or ends in an error. -/
abbrev Decoder (ε : Type) := StateT (List UInt8) (Except ε)

section Decoders

variable {ε α β : Type}

/-- The next `count` bytes; `e` when fewer remain. -/
def take (e : ε) (count : ℕ) : Decoder ε (List UInt8) := fun input =>
  if count ≤ input.length then .ok (input.take count, input.drop count) else .error e

/-- Refuse with `e` unless `c`. -/
def require (e : ε) (c : Prop) [Decidable c] : Decoder ε Unit := fun input =>
  if c then .ok ((), input) else .error e

/-- `d` decodes the bytes `bytes` to `a`, whatever follows them. -/
def Decodes (d : Decoder ε α) (bytes : List UInt8) (a : α) : Prop :=
  ∀ rest, d (bytes ++ rest) = .ok (a, rest)

lemma decodes_take (e : ε) {bytes : List UInt8} {count : ℕ} (h : bytes.length = count) :
    Decodes (take e count) bytes bytes := by
  intro rest
  simp [take, ← h]

lemma decodes_pure (a : α) : Decodes (pure a : Decoder ε α) [] a := fun _ => rfl

/-- Two fields in a row. -/
lemma decodes_bind {d : Decoder ε α} {f : α → Decoder ε β} {bytes more : List UInt8} {a : α}
    {b : β} (hd : Decodes d bytes a) (hf : Decodes (f a) more b) :
    Decodes (d >>= f) (bytes ++ more) b := by
  intro rest
  rw [List.append_assoc]
  show (d (bytes ++ (more ++ rest)) >>= fun p => f p.1 p.2) = _
  rw [hd]
  exact hf rest

/-- The last field. -/
lemma decodes_bind_last {d : Decoder ε α} {f : α → Decoder ε β} {bytes : List UInt8} {a : α}
    {b : β} (hd : Decodes d bytes a) (hf : Decodes (f a) [] b) :
    Decodes (d >>= f) bytes b := by
  simpa using decodes_bind hd hf

/-- A check that is passed reads nothing. -/
lemma decodes_require {e : ε} {c : Prop} [Decidable c] {f : Unit → Decoder ε β}
    {bytes : List UInt8} {b : β} (hc : c) (hf : Decodes (f ()) bytes b) :
    Decodes (require e c >>= f) bytes b := by
  intro rest
  show (require e c (bytes ++ rest) >>= fun p => f p.1 p.2) = _
  rw [require, if_pos hc]
  exact hf rest

/-- What follows a first decoder sees exactly the bytes it left. -/
lemma bind_ok {d : Decoder ε α} {f : α → Decoder ε β} {input : List UInt8}
    {out : β × List UInt8} :
    (d >>= f) input = .ok out ↔ ∃ a rest, d input = .ok (a, rest) ∧ f a rest = .ok out := by
  show (d input >>= fun p => f p.1 p.2) = _ ↔ _
  cases hd : d input with
  | error e => simp [bind, Except.bind]
  | ok p =>
    obtain ⟨a, rest⟩ := p
    simp only [bind, Except.bind, Except.ok.injEq, Prod.mk.injEq]
    exact ⟨fun h => ⟨a, rest, ⟨rfl, rfl⟩, h⟩, by rintro ⟨_, _, ⟨rfl, rfl⟩, h⟩; exact h⟩

@[simp] lemma require_ok {e : ε} {c : Prop} [Decidable c] {input rest : List UInt8} :
    require e c input = .ok ((), rest) ↔ c ∧ input = rest := by
  unfold require
  split_ifs with h <;> simp [h]

/-- Decoding the same thing `count` times. -/
def replicateM (d : Decoder ε α) : ℕ → Decoder ε (List α)
  | 0 => pure []
  | count + 1 => do
    let a ← d
    let as ← replicateM d count
    pure (a :: as)

lemma decodes_replicateM {d : Decoder ε α} {write : α → List UInt8} {as : List α}
    (h : ∀ a ∈ as, Decodes d (write a) a) :
    Decodes (replicateM d as.length) (as.flatMap write) as := by
  induction as with
  | nil => exact decodes_pure []
  | cons a as ih =>
    rw [List.flatMap_cons]
    refine decodes_bind (h a (by simp)) ?_
    exact decodes_bind_last (ih fun b hb => h b (by simp [hb])) (decodes_pure (a :: as))

/-! ### What a decoder reports -/

/-- Every error of the decoder has the property. -/
def Reports (d : Decoder ε α) (P : ε → Prop) : Prop := ∀ input e, d input = .error e → P e

section Reports

variable {P : ε → Prop} {e : ε}

lemma reports_take {count : ℕ} (h : P e) : Reports (take e count) P := by
  intro input e' herror
  unfold take at herror
  split_ifs at herror
  cases herror
  exact h

lemma reports_require {c : Prop} [Decidable c] (h : P e) : Reports (require e c) P := by
  intro input e' herror
  unfold require at herror
  split_ifs at herror
  cases herror
  exact h

lemma reports_pure (a : α) : Reports (pure a : Decoder ε α) P := by
  intro input e' herror
  cases herror

lemma reports_bind {d : Decoder ε α} {f : α → Decoder ε β} (hd : Reports d P)
    (hf : ∀ a, Reports (f a) P) : Reports (d >>= f) P := by
  intro input e' herror
  have hsplit : (d input >>= fun p => f p.1 p.2) = .error e' := herror
  cases hread : d input with
  | error e'' =>
    rw [hread] at hsplit
    obtain rfl := Except.error.inj hsplit
    exact hd input _ hread
  | ok p =>
    rw [hread] at hsplit
    exact hf p.1 p.2 e' hsplit

lemma reports_replicateM {d : Decoder ε α} (hd : Reports d P) (count : ℕ) :
    Reports (replicateM d count) P := by
  induction count with
  | zero => exact reports_pure []
  | succ count ih => exact reports_bind hd fun a => reports_bind ih fun as => reports_pure _

end Reports

/-! ### What a decoder accepts -/

/-- What `d` accepts is what `write` gives of the value it decodes, with nothing skipped. -/
def Reads (d : Decoder ε α) (write : α → List UInt8) : Prop :=
  ∀ input a rest, d input = .ok (a, rest) → input = write a ++ rest

lemma take_ok {e : ε} {count : ℕ} {input bytes rest : List UInt8}
    (h : take e count input = .ok (bytes, rest)) : input = bytes ++ rest ∧ bytes.length = count := by
  unfold take at h
  split_ifs at h with hcount
  · obtain ⟨rfl, rfl⟩ := Prod.mk_inj.mp (Except.ok.inj h)
    exact ⟨(List.take_append_drop count input).symm, List.length_take_of_le hcount⟩

/-- A field that is a function of its bytes, from which its bytes are recovered. -/
lemma reads_take {e : ε} {count : ℕ} {read : List UInt8 → α} {write : α → List UInt8}
    (h : ∀ bytes, bytes.length = count → write (read bytes) = bytes) :
    Reads (do return read (← take e count)) write := by
  intro input a rest hread
  obtain ⟨bytes, _, htake, hread⟩ := bind_ok.mp hread
  obtain ⟨hinput, hlength⟩ := take_ok htake
  cases hread
  rw [h bytes hlength, hinput]

/-- Records in a row. -/
lemma Reads.replicateM {d : Decoder ε α} {write : α → List UInt8} (h : Reads d write)
    {count : ℕ} {input rest : List UInt8} {as : List α}
    (hread : replicateM d count input = .ok (as, rest)) :
    as.length = count ∧ input = as.flatMap write ++ rest := by
  induction count generalizing input as rest with
  | zero =>
    cases hread
    exact ⟨rfl, rfl⟩
  | succ count ih =>
    obtain ⟨a, middle, hfirst, hread⟩ := bind_ok.mp hread
    obtain ⟨more, last, hmore, hread⟩ := bind_ok.mp hread
    obtain ⟨hlength, hmiddle⟩ := ih hmore
    cases hread
    refine ⟨by rw [List.length_cons, hlength], ?_⟩
    rw [h _ _ _ hfirst, hmiddle, List.flatMap_cons, List.append_assoc]

end Decoders

end LittleEndian
