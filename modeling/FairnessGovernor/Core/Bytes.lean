/-
# Deterministic little-endian encoding primitives

Durable records and digests are built from fixed-width little-endian words and
length-prefixed blobs.  `ByteWriter` appends, so a writer is the byte string it appends;
`ByteReader` fails on a short buffer, and the caller turns the failure into its own status,
which is the error argument of the readers here.
-/
import FairnessGovernor.Core.Types
import FairnessGovernor.Lib.LittleEndian

namespace FairnessGovernor

open LittleEndian

/-- `std::vector<std::uint8_t>`, and the bytes of a `std::string`. -/
abbrev ByteBuffer := List UInt8

/-- The bytes of a text. -/
def textBytes (text : String) : ByteBuffer := text.toUTF8.data.toList

/-! ## Writers -/

namespace ByteWriter

def u8 (value : UInt8) : ByteBuffer := [value]
def u16 (value : UInt16) : ByteBuffer := leBytes 2 value.toNat
def u32 (value : UInt32) : ByteBuffer := leBytes 4 value.toNat
def u64 (value : UInt64) : ByteBuffer := leBytes 8 value.toNat
def i64 (value : Int64) : ByteBuffer := u64 value.toUInt64
def flag (value : Bool) : ByteBuffer := u8 (if value then 1 else 0)
def blob (value : ByteBuffer) : ByteBuffer := u32 (UInt32.ofNat value.length) ++ value

/-- A quantity of the evaluator, written as the 64-bit word that holds it. -/
def quantity (value : ℕ) : ByteBuffer := u64 (UInt64.ofNat value)
/-- A signed quantity of the evaluator, written as the 64-bit word that holds it. -/
def signedQuantity (value : ℤ) : ByteBuffer := i64 (Int64.ofInt value)

@[simp] lemma length_u8 (value : UInt8) : (u8 value).length = 1 := rfl
@[simp] lemma length_u16 (value : UInt16) : (u16 value).length = 2 := length_leBytes _ _
@[simp] lemma length_u32 (value : UInt32) : (u32 value).length = 4 := length_leBytes _ _
@[simp] lemma length_u64 (value : UInt64) : (u64 value).length = 8 := length_leBytes _ _
@[simp] lemma length_i64 (value : Int64) : (i64 value).length = 8 := length_leBytes _ _
@[simp] lemma length_flag (value : Bool) : (flag value).length = 1 := rfl
@[simp] lemma length_blob (value : ByteBuffer) : (blob value).length = 4 + value.length := by
  simp [blob]

end ByteWriter

/-- A word of the given width is written back as its bytes. -/
lemma leBytes_of_length {bytes : ByteBuffer} {width value : ℕ} (hlength : bytes.length = width)
    (hvalue : value = leValue bytes) : leBytes width value = bytes := by
  rw [hvalue, ← hlength, leBytes_leValue]

/-! ## Words at offsets -/

/-- `load_le`: the word of `width` bytes at an offset. -/
def loadLe (width : ℕ) (bytes : ByteBuffer) (offset : ℕ) : ℕ :=
  leValue ((bytes.drop offset).take width)

/-- `store_le`: writes a word of `width` bytes at an offset. -/
def storeLe (width : ℕ) (bytes : ByteBuffer) (offset value : ℕ) : ByteBuffer :=
  bytes.take offset ++ leBytes width value ++ bytes.drop (offset + width)

/-- What follows an offset starts with the word there. -/
lemma drop_eq_loadLe {width offset : ℕ} {bytes : ByteBuffer} (h : offset + width ≤ bytes.length) :
    bytes.drop offset = leBytes width (loadLe width bytes offset) ++ bytes.drop (offset + width) := by
  have hlength : ((bytes.drop offset).take width).length = width := by
    rw [List.length_take, List.length_drop]
    omega
  have hword : leBytes width (loadLe width bytes offset) = (bytes.drop offset).take width :=
    leBytes_of_length hlength rfl
  rw [hword, ← List.drop_drop, List.take_append_drop]

lemma loadLe_lt (width : ℕ) (bytes : ByteBuffer) (offset : ℕ) :
    loadLe width bytes offset < 256 ^ width := by
  refine lt_of_lt_of_le (leValue_lt _) (Nat.pow_le_pow_right (by norm_num) ?_)
  rw [List.length_take]
  exact Nat.min_le_left _ _

/-- A word past the front of a byte string is a word of the rest. -/
lemma loadLe_append {front rest : ByteBuffer} {width offset n : ℕ} (h : front.length = n)
    (hle : n ≤ offset) : loadLe width (front ++ rest) offset = loadLe width rest (offset - n) := by
  obtain ⟨k, rfl⟩ := Nat.exists_eq_add_of_le hle
  unfold loadLe
  rw [← h, List.drop_append, Nat.add_sub_cancel_left, List.drop_eq_nil_of_le (by omega),
    List.nil_append]

lemma loadLe_leBytes {width value : ℕ} {rest : ByteBuffer} (h : value < 256 ^ width) :
    loadLe width (leBytes width value ++ rest) 0 = value := by
  unfold loadLe
  rw [List.drop_zero, List.take_left' (length_leBytes width value), leValue_leBytes_of_lt h]

/-- A prefix that holds a word holds the same word. -/
lemma loadLe_take {bytes : ByteBuffer} {width offset n : ℕ} (h : offset + width ≤ n) :
    loadLe width (bytes.take n) offset = loadLe width bytes offset := by
  unfold loadLe
  rw [List.drop_take, List.take_take, Nat.min_eq_left (by omega)]

/-- The bytes `out` are those of `buffer`, of which `front` has replaced the beginning. -/
def Filled (front buffer out : ByteBuffer) : Prop := out = front ++ buffer.drop front.length

namespace Filled

variable {front buffer out : ByteBuffer}

lemma start (buffer : ByteBuffer) (width value : ℕ) :
    Filled (leBytes width value) buffer (storeLe width buffer 0 value) := by
  unfold Filled storeLe
  rw [List.take_zero, List.nil_append, Nat.zero_add, length_leBytes]

/-- A word written right after the front becomes part of the front. -/
lemma store {width offset value : ℕ} (h : Filled front buffer out)
    (hoffset : front.length = offset) :
    Filled (front ++ leBytes width value) buffer (storeLe width out offset value) := by
  unfold Filled storeLe at *
  rw [h, List.take_left' hoffset, ← List.drop_drop, List.drop_left' hoffset, List.drop_drop,
    List.length_append, length_leBytes]

/-- What is not overwritten stays. -/
lemma keep {kept : ByteBuffer} (h : Filled front buffer out)
    (hkept : (buffer.drop front.length).take kept.length = kept) :
    Filled (front ++ kept) buffer out := by
  unfold Filled at *
  have hsplit := List.take_append_drop kept.length (buffer.drop front.length)
  rw [hkept] at hsplit
  rw [h, List.append_assoc, List.length_append, ← List.drop_drop, hsplit]

end Filled

section Fields

open ByteWriter

variable {rest : ByteBuffer} {offset width : ℕ}

@[simp] lemma loadLe_u16 (value : UInt16) : loadLe 2 (u16 value ++ rest) 0 = value.toNat :=
  loadLe_leBytes (by simpa using value.toNat_lt)

@[simp] lemma loadLe_u32 (value : UInt32) : loadLe 4 (u32 value ++ rest) 0 = value.toNat :=
  loadLe_leBytes (by simpa using value.toNat_lt)

@[simp] lemma loadLe_u64 (value : UInt64) : loadLe 8 (u64 value ++ rest) 0 = value.toNat :=
  loadLe_leBytes (by simpa using value.toNat_lt)

@[simp] lemma loadLe_skip_u16 (value : UInt16) :
    loadLe width (u16 value ++ rest) (offset + 2) = loadLe width rest offset :=
  loadLe_append (length_u16 value) (Nat.le_add_left _ _)

@[simp] lemma loadLe_skip_u32 (value : UInt32) :
    loadLe width (u32 value ++ rest) (offset + 4) = loadLe width rest offset :=
  loadLe_append (length_u32 value) (Nat.le_add_left _ _)

@[simp] lemma loadLe_skip_u64 (value : UInt64) :
    loadLe width (u64 value ++ rest) (offset + 8) = loadLe width rest offset :=
  loadLe_append (length_u64 value) (Nat.le_add_left _ _)

variable {bytes : ByteBuffer}

/-! Conversely, a word that is found at an offset is the one that was written there. -/

lemma drop_eq_u16 {value : UInt16} (h : offset + 2 ≤ bytes.length)
    (hvalue : loadLe 2 bytes offset = value.toNat) :
    bytes.drop offset = u16 value ++ bytes.drop (offset + 2) := by
  rw [drop_eq_loadLe h, hvalue, u16]

lemma drop_eq_u32 {value : UInt32} (h : offset + 4 ≤ bytes.length)
    (hvalue : loadLe 4 bytes offset = value.toNat) :
    bytes.drop offset = u32 value ++ bytes.drop (offset + 4) := by
  rw [drop_eq_loadLe h, hvalue, u32]

lemma drop_eq_u64 {value : UInt64} (h : offset + 8 ≤ bytes.length)
    (hvalue : loadLe 8 bytes offset = value.toNat) :
    bytes.drop offset = u64 value ++ bytes.drop (offset + 8) := by
  rw [drop_eq_loadLe h, hvalue, u64]

/-- The word of eight bytes at an offset, as the number that a field holds. -/
lemma loadLe_toNat (bytes : ByteBuffer) (offset : ℕ) :
    loadLe 8 bytes offset = (UInt64.ofNat (loadLe 8 bytes offset)).toNat :=
  (UInt64.toNat_ofNat_of_lt' (loadLe_lt 8 bytes offset)).symm

end Fields

/-! ## Readers -/

/-- A reader whose failures the caller reports as a status. -/
abbrev ByteReader := Decoder Status

namespace ByteReader

def u8 (e : Status) : ByteReader UInt8 := do
  return UInt8.ofNat (leValue (← take e 1))
def u16 (e : Status) : ByteReader UInt16 := do
  return UInt16.ofNat (leValue (← take e 2))
def u32 (e : Status) : ByteReader UInt32 := do
  return UInt32.ofNat (leValue (← take e 4))
def u64 (e : Status) : ByteReader UInt64 := do
  return UInt64.ofNat (leValue (← take e 8))
def i64 (e : Status) : ByteReader Int64 := do
  return (← u64 e).toInt64
/-- A flag byte: anything but zero is true. -/
def flag (e : Status) : ByteReader Bool := do
  return (← u8 e) != 0
/-- A length-prefixed blob, refusing any length above `maxSize`. -/
def blob (e : Status) (maxSize : ℕ) : ByteReader ByteBuffer := do
  let length ← u32 e
  require e (length.toNat ≤ maxSize)
  take e length.toNat

variable (e : Status)

lemma decodes_u8 (value : UInt8) : Decodes (u8 e) (ByteWriter.u8 value) value := by
  refine decodes_bind_last (decodes_take e rfl) ?_
  have hval : leValue (ByteWriter.u8 value) = value.toNat := by
    simp [ByteWriter.u8, leValue]
  rw [hval, UInt8.ofNat_toNat]
  exact decodes_pure value

lemma decodes_u16 (value : UInt16) : Decodes (u16 e) (ByteWriter.u16 value) value := by
  refine decodes_bind_last (decodes_take e (ByteWriter.length_u16 value)) ?_
  rw [ByteWriter.u16, leValue_leBytes_of_lt (by simpa using value.toNat_lt), UInt16.ofNat_toNat]
  exact decodes_pure value

lemma decodes_u32 (value : UInt32) : Decodes (u32 e) (ByteWriter.u32 value) value := by
  refine decodes_bind_last (decodes_take e (ByteWriter.length_u32 value)) ?_
  rw [ByteWriter.u32, leValue_leBytes_of_lt (by simpa using value.toNat_lt), UInt32.ofNat_toNat]
  exact decodes_pure value

lemma decodes_u64 (value : UInt64) : Decodes (u64 e) (ByteWriter.u64 value) value := by
  refine decodes_bind_last (decodes_take e (ByteWriter.length_u64 value)) ?_
  rw [ByteWriter.u64, leValue_leBytes_of_lt (by simpa using value.toNat_lt), UInt64.ofNat_toNat]
  exact decodes_pure value

lemma decodes_i64 (value : Int64) : Decodes (i64 e) (ByteWriter.i64 value) value := by
  refine decodes_bind_last (decodes_u64 e value.toUInt64) ?_
  exact decodes_pure value

lemma decodes_flag (value : Bool) : Decodes (flag e) (ByteWriter.flag value) value := by
  refine decodes_bind_last (decodes_u8 e _) ?_
  cases value <;> exact decodes_pure _

lemma decodes_blob {value : ByteBuffer} {maxSize : ℕ} (h : value.length ≤ maxSize)
    (hmax : maxSize < 2 ^ 32) : Decodes (blob e maxSize) (ByteWriter.blob value) value := by
  have hlen : (UInt32.ofNat value.length).toNat = value.length :=
    UInt32.toNat_ofNat_of_lt' (by simpa using lt_of_le_of_lt h hmax)
  refine decodes_bind (decodes_u32 e _) (decodes_require (by omega) ?_)
  exact decodes_take e hlen.symm

/-! ### What the readers report -/

section Reports

variable {e} {P : Status → Prop} (h : P e)

include h

lemma reports_u8 : Reports (u8 e) P :=
  reports_bind (reports_take h) fun _ => reports_pure _

lemma reports_u16 : Reports (u16 e) P :=
  reports_bind (reports_take h) fun _ => reports_pure _

lemma reports_u32 : Reports (u32 e) P :=
  reports_bind (reports_take h) fun _ => reports_pure _

lemma reports_u64 : Reports (u64 e) P :=
  reports_bind (reports_take h) fun _ => reports_pure _

lemma reports_i64 : Reports (i64 e) P :=
  reports_bind (reports_u64 h) fun _ => reports_pure _

lemma reports_blob (maxSize : ℕ) : Reports (blob e maxSize) P :=
  reports_bind (reports_u32 h) fun _ =>
    reports_bind (reports_require h) fun _ => reports_take h

end Reports

/-! ### What the readers accept -/

lemma reads_u8 : Reads (u8 e) ByteWriter.u8 := by
  refine reads_take fun bytes hlength => ?_
  obtain ⟨byte, rfl⟩ := List.length_eq_one_iff.mp hlength
  simp [ByteWriter.u8, leValue]

lemma reads_u16 : Reads (u16 e) ByteWriter.u16 := by
  refine reads_take fun bytes hlength => leBytes_of_length hlength ?_
  have hlt := leValue_lt bytes
  rw [hlength] at hlt
  exact UInt16.toNat_ofNat_of_lt' hlt

lemma reads_u32 : Reads (u32 e) ByteWriter.u32 := by
  refine reads_take fun bytes hlength => leBytes_of_length hlength ?_
  have hlt := leValue_lt bytes
  rw [hlength] at hlt
  exact UInt32.toNat_ofNat_of_lt' hlt

lemma reads_u64 : Reads (u64 e) ByteWriter.u64 := by
  refine reads_take fun bytes hlength => leBytes_of_length hlength ?_
  have hlt := leValue_lt bytes
  rw [hlength] at hlt
  exact UInt64.toNat_ofNat_of_lt' hlt

lemma reads_i64 : Reads (i64 e) ByteWriter.i64 := by
  intro input value rest hread
  obtain ⟨word, _, hword, hread⟩ := bind_ok.mp hread
  have hinput := reads_u64 e _ _ _ hword
  cases hread
  exact hinput

/-- A flag takes one byte, of which only whether it is zero is kept. -/
lemma flag_ok {input rest : ByteBuffer} {value : Bool} (h : flag e input = .ok (value, rest)) :
    ∃ byte, input = byte :: rest ∧ value = (byte != 0) := by
  obtain ⟨byte, _, hbyte, h⟩ := bind_ok.mp h
  have hinput := reads_u8 e _ _ _ hbyte
  cases h
  exact ⟨byte, hinput, rfl⟩

lemma reads_blob (maxSize : ℕ) : Reads (blob e maxSize) ByteWriter.blob := by
  intro input value rest hread
  obtain ⟨length, _, hlength, hread⟩ := bind_ok.mp hread
  obtain ⟨_, _, hrequire, hread⟩ := bind_ok.mp hread
  obtain ⟨-, rfl⟩ := require_ok.mp hrequire
  obtain ⟨hvalue, hcount⟩ := take_ok hread
  rw [reads_u32 e _ _ _ hlength, hvalue, ByteWriter.blob, hcount, UInt32.ofNat_toNat,
    List.append_assoc]

end ByteReader

/-! ## Digests -/

/-- `kFnvOffsetBasis`. -/
def kFnvOffsetBasis : UInt64 := 1469598103934665603

/-- The 64-bit FNV-1a hash. -/
def fnv1a64 (data : ByteBuffer) (seed : UInt64 := kFnvOffsetBasis) : UInt64 :=
  data.foldl (fun hash byte => (hash ^^^ byte.toUInt64) * 1099511628211) seed

/-- `checksum64`. -/
def checksum64 (data : ByteBuffer) : UInt64 := fnv1a64 data

/-- The version every durable format starts with. -/
def kFormatVersion : UInt16 := 1

end FairnessGovernor
