/-
# Canonical encodings

What the accounting and the evidence decoders accept is what the encoder gives of the decoded
value, byte for byte.  A policy has flags, of which a decoder keeps only whether the byte is
zero: its encoding is canonical exactly where every flag byte is zero or one.
-/
import FairnessGovernor.Persist.RoundTrips

namespace FairnessGovernor

open LittleEndian ByteReader

/-! ## Shared parts -/

lemma reads_readPriority (e : Status) : Reads (readPriority e) writePriority := by
  intro input ref rest hread
  simp only [readPriority, bind_ok] at hread
  obtain ⟨id, _, hid, generation, _, hgeneration, hread⟩ := hread
  cases hread
  rw [reads_u64 e _ _ _ hid, reads_u64 e _ _ _ hgeneration, ← List.append_assoc]
  rfl

lemma reads_readQos (e : Status) : Reads (readQos e) writeQos := by
  intro input ref rest hread
  simp only [readQos, bind_ok] at hread
  obtain ⟨id, _, hid, generation, _, hgeneration, hread⟩ := hread
  cases hread
  rw [reads_u64 e _ _ _ hid, reads_u64 e _ _ _ hgeneration, ← List.append_assoc]
  rfl

lemma reads_readProvenance (e : Status) : Reads (readProvenance e) writeProvenance := by
  intro input provenance rest hread
  simp only [readProvenance, bind_ok] at hread
  obtain ⟨revision, _, hrevision, source, _, hsource, digest, _, hdigest, captured, _, hcaptured,
    hread⟩ := hread
  cases hread
  rw [reads_u64 e _ _ _ hrevision, reads_blob e _ _ _ _ hsource, reads_u64 e _ _ _ hdigest,
    reads_i64 e _ _ _ hcaptured]
  simp only [writeProvenance, List.append_assoc]

lemma readVersion_ok {truncated unsupported : Status} {input rest : ByteBuffer}
    (h : readVersion truncated unsupported input = .ok ((), rest)) :
    input = ByteWriter.u16 kFormatVersion ++ rest := by
  simp only [readVersion, bind_ok, require_ok] at h
  obtain ⟨version, _, hversion, rfl, rfl⟩ := h
  exact reads_u16 truncated _ _ _ hversion

lemma readCount_ok {truncated limit : Status} {maxCount count : ℕ} {input rest : ByteBuffer}
    (h : readCount truncated limit maxCount input = .ok (count, rest)) :
    input = ByteWriter.u32 (UInt32.ofNat count) ++ rest := by
  simp only [readCount, bind_ok] at h
  obtain ⟨word, _, hword, _, _, hlimit, h⟩ := h
  obtain ⟨-, rfl⟩ := require_ok.mp hlimit
  cases h
  rw [UInt32.ofNat_toNat]
  exact reads_u32 truncated _ _ _ hword

/-! ## Accounting -/

lemma reads_readEntry : Reads readEntry writeEntry := by
  intro input entry rest hread
  simp only [readEntry, bind_ok] at hread
  obtain ⟨_, _, h1, _, _, h2, _, _, h3, _, _, h4, _, _, h5, _, _, h6, _, _, h7, _, _, h8, _, _, h9,
    _, _, h10, _, _, h11, _, _, h12, _, _, hcarry, _, _, hstreak, hread⟩ := hread
  obtain ⟨-, rfl⟩ := require_ok.mp hcarry
  obtain ⟨-, rfl⟩ := require_ok.mp hstreak
  cases hread
  rw [reads_u64 _ _ _ _ h1, reads_u64 _ _ _ _ h2, reads_u64 _ _ _ _ h3, reads_u64 _ _ _ _ h4,
    reads_u64 _ _ _ _ h5, reads_u64 _ _ _ _ h6, reads_u32 _ _ _ _ h7, reads_u32 _ _ _ _ h8,
    reads_u64 _ _ _ _ h9, reads_u64 _ _ _ _ h10, reads_u64 _ _ _ _ h11, reads_u64 _ _ _ _ h12]
  simp only [writeEntry, List.append_assoc]

lemma readEntries_ok {count : ℕ} {seen : List SubjectId} {input rest : ByteBuffer}
    {entries : List SubjectAccounting} (h : readEntries count seen input = .ok (entries, rest)) :
    entries.length = count ∧ input = entries.flatMap writeEntry ++ rest := by
  induction count generalizing seen input entries rest with
  | zero =>
    cases h
    exact ⟨rfl, rfl⟩
  | succ count ih =>
    simp only [readEntries, bind_ok] at h
    obtain ⟨entry, _, hentry, _, _, hfresh, more, _, hmore, h⟩ := h
    obtain ⟨-, rfl⟩ := require_ok.mp hfresh
    obtain ⟨hlength, hmiddle⟩ := ih hmore
    cases h
    refine ⟨by rw [List.length_cons, hlength], ?_⟩
    rw [reads_readEntry _ _ _ hentry, hmiddle, List.flatMap_cons, List.append_assoc]

lemma reads_readAccounting : Reads readAccounting encodeAccounting := by
  intro input accounting rest hread
  simp only [readAccounting, readAccountingFields, bind_ok] at hread
  obtain ⟨_, _, hversion, _, _, ⟨_, _, h1, _, _, h2, _, _, h3, _, _, h4, _, _, h5, _, _, h6,
    _, _, h7, _, _, h8, hfields⟩, count, _, hcount, entries, _, hentries, hread⟩ := hread
  obtain ⟨hlength, hrest⟩ := readEntries_ok hentries
  cases hfields
  cases hread
  rw [readVersion_ok hversion, reads_u64 _ _ _ _ h1, reads_u64 _ _ _ _ h2,
    reads_u64 _ _ _ _ h3, reads_u64 _ _ _ _ h4, reads_u64 _ _ _ _ h5, reads_u64 _ _ _ _ h6,
    reads_u64 _ _ _ _ h7, reads_u64 _ _ _ _ h8, readCount_ok hcount, hrest, ← hlength]
  simp only [encodeAccounting, writeAccountingFields, List.append_assoc]

/-! ## The bytes of an accounting -/

/-- What is read back determines what was written. -/
lemma Decodes.injective {α : Type} {read : ByteReader α} {write : α → ByteBuffer}
    (h : ∀ a, Decodes read (write a) a) : Function.Injective write := by
  intro a b heq
  have hread := h a []
  rw [heq, h b []] at hread
  exact (Prod.mk_inj.mp (Except.ok.inj hread)).1.symm

lemma u64_cancel {a b : UInt64} {s t : ByteBuffer} :
    ByteWriter.u64 a ++ s = ByteWriter.u64 b ++ t ↔ a = b ∧ s = t := by
  constructor
  · intro h
    obtain ⟨h1, h2⟩ := List.append_inj h (by simp)
    exact ⟨Decodes.injective (decodes_u64 ⟨.ok, ""⟩) h1, h2⟩
  · rintro ⟨rfl, rfl⟩
    rfl

lemma u32_cancel {a b : UInt32} {s t : ByteBuffer} :
    ByteWriter.u32 a ++ s = ByteWriter.u32 b ++ t ↔ a = b ∧ s = t := by
  constructor
  · intro h
    obtain ⟨h1, h2⟩ := List.append_inj h (by simp)
    exact ⟨Decodes.injective (decodes_u32 ⟨.ok, ""⟩) h1, h2⟩
  · rintro ⟨rfl, rfl⟩
    rfl

lemma writeEntry_cancel {a b : SubjectAccounting} {s t : ByteBuffer} :
    writeEntry a ++ s = writeEntry b ++ t ↔ a = b ∧ s = t := by
  obtain ⟨⟨a1⟩, ⟨a2⟩, a3, a4, a5, a6, a7, a8, a9, a10, ⟨a11⟩, ⟨a12⟩⟩ := a
  obtain ⟨⟨b1⟩, ⟨b2⟩, b3, b4, b5, b6, b7, b8, b9, b10, ⟨b11⟩, ⟨b12⟩⟩ := b
  simp only [writeEntry, List.append_assoc, u64_cancel, u32_cancel, SubjectAccounting.mk.injEq,
    Id.mk.injEq, Generation.mk.injEq]
  tauto

lemma flatMap_writeEntry_injective {entries entries' : List SubjectAccounting}
    (h : entries.flatMap writeEntry = entries'.flatMap writeEntry) : entries = entries' := by
  induction entries generalizing entries' with
  | nil =>
    cases entries' with
    | nil => rfl
    | cons entry rest =>
      have hlength := congrArg List.length h
      simp at hlength
      omega
  | cons entry rest ih =>
    cases entries' with
    | nil =>
      have hlength := congrArg List.length h
      simp at hlength
    | cons entry' rest' =>
      rw [List.flatMap_cons, List.flatMap_cons, writeEntry_cancel] at h
      rw [h.1, ih h.2]

/-- Accountings with the same bytes are the same. -/
theorem encodeAccounting_injective : Function.Injective encodeAccounting := by
  intro a b h
  obtain ⟨⟨a1⟩, ⟨a2⟩, ⟨a3⟩, a4, ⟨a5⟩, ⟨a6⟩, ⟨a7⟩, ⟨a8⟩, a9⟩ := a
  obtain ⟨⟨b1⟩, ⟨b2⟩, ⟨b3⟩, b4, ⟨b5⟩, ⟨b6⟩, ⟨b7⟩, ⟨b8⟩, b9⟩ := b
  simp only [encodeAccounting, writeAccountingFields, List.append_assoc, List.append_cancel_left_eq,
    u64_cancel, u32_cancel] at h
  obtain ⟨rfl, rfl, rfl, rfl, rfl, rfl, rfl, rfl, -, h⟩ := h
  rw [flatMap_writeEntry_injective h]

/-! ## Evidence -/

lemma reads_readObservation : Reads readObservation writeObservation := by
  intro input observation rest hread
  simp only [readObservation, bind_ok] at hread
  obtain ⟨_, _, h1, _, _, h2, _, _, h3, _, _, h4, _, _, h5, _, _, h6, _, _, h7, hread⟩ := hread
  cases hread
  rw [reads_u64 _ _ _ _ h1, reads_u64 _ _ _ _ h2, reads_u64 _ _ _ _ h3, reads_u32 _ _ _ _ h4,
    reads_u32 _ _ _ _ h5, reads_readPriority _ _ _ _ h6, reads_readQos _ _ _ _ h7]
  simp only [writeObservation, List.append_assoc]

lemma reads_readEvidence : Reads readEvidence encodeEvidence := by
  intro input snapshot rest hread
  simp only [readEvidence, readEvidenceFields, bind_ok] at hread
  obtain ⟨_, _, hversion, _, _, ⟨_, _, h1, _, _, h2, _, _, h3, _, _, h4, _, _, h5, _, _, h6,
    _, _, h7, _, _, h8, _, _, h9, _, _, h10, _, _, h11, _, _, h12, hfields⟩, count, _, hcount,
    observations, _, hobservations, hread⟩ := hread
  obtain ⟨hlength, hrest⟩ := reads_readObservation.replicateM hobservations
  cases hfields
  cases hread
  rw [readVersion_ok hversion, reads_u64 _ _ _ _ h1, reads_u64 _ _ _ _ h2,
    reads_u64 _ _ _ _ h3, reads_u64 _ _ _ _ h4, reads_u64 _ _ _ _ h5, reads_i64 _ _ _ _ h6,
    reads_u64 _ _ _ _ h7, reads_blob _ _ _ _ _ h8, reads_u64 _ _ _ _ h9, reads_u64 _ _ _ _ h10,
    reads_readProvenance _ _ _ _ h11, reads_u64 _ _ _ _ h12, readCount_ok hcount, hrest, ← hlength]
  simp only [encodeEvidence, List.append_assoc]

/-! ## Flags -/

/-- A flag byte is written as zero or as one. -/
def CanonicalFlags (flags : List UInt8) : Prop := ∀ flag ∈ flags, flag = 0 ∨ flag = 1

instance (flags : List UInt8) : Decidable (CanonicalFlags flags) :=
  inferInstanceAs (Decidable (∀ flag ∈ flags, _))

@[simp] lemma canonicalFlags_append (first second : List UInt8) :
    CanonicalFlags (first ++ second) ↔ CanonicalFlags first ∧ CanonicalFlags second :=
  List.forall_mem_append

lemma flag_eq_iff (byte : UInt8) :
    ByteWriter.flag (byte != 0) = [byte] ↔ CanonicalFlags [byte] := by
  unfold ByteWriter.flag ByteWriter.u8 CanonicalFlags
  simp only [List.forall_mem_singleton, List.cons.injEq, and_true]
  by_cases hzero : byte = 0
  · simp [hzero]
  · have hflag : (byte != 0) = true := by simpa using hzero
    rw [hflag, if_pos rfl]
    simp only [hzero, false_or]
    exact eq_comm

/-- Where a record has its flags is read beside the record: the value is written back as it was
read exactly where the flags are canonical. -/
def ReadsFlags {α : Type} (d : ByteReader α) (flags : ByteReader (List UInt8))
    (write : α → ByteBuffer) : Prop :=
  ∀ input a rest, d input = .ok (a, rest) → ∃ bytes found, flags input = .ok (found, rest) ∧
    input = bytes ++ rest ∧ bytes.length = (write a).length ∧
    (write a = bytes ↔ CanonicalFlags found)

/-- The flags of records in a row. -/
def replicateFlags (flags : ByteReader (List UInt8)) (count : ℕ) : ByteReader (List UInt8) := do
  let found ← replicateM flags count
  return found.flatten

/-- Two parts that are as long as what is written for them. -/
lemma append_eq_iff {first second bytes more : ByteBuffer} (h : bytes.length = first.length) :
    first ++ second = bytes ++ more ↔ first = bytes ∧ second = more := by
  constructor
  · intro heq
    exact List.append_inj heq h.symm
  · rintro ⟨rfl, rfl⟩
    rfl

lemma ReadsFlags.replicateM {α : Type} {d : ByteReader α} {flags : ByteReader (List UInt8)}
    {write : α → ByteBuffer} (h : ReadsFlags d flags write) {count : ℕ} {input rest : ByteBuffer}
    {as : List α} (hread : LittleEndian.replicateM d count input = .ok (as, rest)) :
    as.length = count ∧ ∃ bytes found, replicateFlags flags count input = .ok (found, rest) ∧
      input = bytes ++ rest ∧ bytes.length = (as.flatMap write).length ∧
      (as.flatMap write = bytes ↔ CanonicalFlags found) := by
  induction count generalizing input as rest with
  | zero =>
    cases hread
    refine ⟨rfl, [], [], rfl, rfl, rfl, ?_⟩
    simp [CanonicalFlags]
  | succ count ih =>
    simp only [LittleEndian.replicateM, bind_ok] at hread
    obtain ⟨a, middle, hfirst, more, last, hmore, hread⟩ := hread
    -- The lengths agree on the first element, so the comparison splits there.
    obtain ⟨bytes, found, hfound, rfl, hbytes, hiff⟩ := h _ _ _ hfirst
    obtain ⟨hlength, others, found', hfound', rfl, hothers, hiff'⟩ := ih hmore
    cases hread
    refine ⟨by rw [List.length_cons, hlength], bytes ++ others, found ++ found', ?_, ?_, ?_, ?_⟩
    · simp only [replicateFlags, bind_ok] at hfound' ⊢
      obtain ⟨all, _, hall, hflat⟩ := hfound'
      cases hflat
      refine ⟨found :: all, rest, ?_, rfl⟩
      simp only [LittleEndian.replicateM, bind_ok]
      exact ⟨found, _, hfound, all, _, hall, rfl⟩
    · rw [List.append_assoc]
    · rw [List.flatMap_cons, List.length_append, List.length_append, hbytes, hothers]
    · rw [List.flatMap_cons, append_eq_iff hbytes, hiff, hiff', canonicalFlags_append]

/-! ## Policies -/

/-- The flag of a group record. -/
def groupFlags : ByteReader (List UInt8) := do
  let e : Status := ⟨.truncated, "policy group record truncated"⟩
  let _ ← u64 e
  let _ ← u64 e
  let _ ← u64 e
  let _ ← u32 e
  let _ ← u64 e
  let _ ← u32 e
  let protectedFlag ← u8 e
  let _ ← blob e kMaxEncodedStringBytes
  return [protectedFlag]

/-- The flag of a subject record. -/
def subjectFlags : ByteReader (List UInt8) := do
  let e : Status := ⟨.truncated, "policy subject record truncated"⟩
  let _ ← u64 e
  let _ ← u64 e
  let _ ← u64 e
  let _ ← u64 e
  let _ ← u32 e
  let _ ← u64 e
  let _ ← u32 e
  let _ ← u32 e
  let _ ← readPriority e
  let _ ← readQos e
  let _ ← u32 e
  let _ ← u32 e
  let _ ← u32 e
  let protectedFlag ← u8 e
  let _ ← u64 e
  let _ ← u64 e
  let _ ← blob e kMaxEncodedStringBytes
  return [protectedFlag]

/-- The flag among the fields of a policy. -/
def fieldsFlags : ByteReader (List UInt8) := do
  let e : Status := ⟨.truncated, "policy fields truncated"⟩
  let _ ← u64 e
  let _ ← u64 e
  let _ ← u64 e
  let _ ← u64 e
  let _ ← u64 e
  let _ ← u64 e
  let _ ← u32 e
  let _ ← u64 e
  let _ ← u32 e
  let _ ← u32 e
  let _ ← u32 e
  let _ ← u64 e
  let _ ← u64 e
  let enforceFlag ← u8 e
  let _ ← readProvenance ⟨.truncated, "policy provenance truncated"⟩
  return [enforceFlag]

/-- The flags of a policy. -/
def readPolicyFlags : ByteReader (List UInt8) := do
  readVersion ⟨.truncated, "policy header truncated"⟩
    ⟨.unsupportedFormat, "unsupported policy format version"⟩
  let enforce ← fieldsFlags
  let groupCount ← readCount ⟨.truncated, "policy group count invalid"⟩
    ⟨.limitExceeded, "policy group count invalid"⟩ kMaxGroups
  let groups ← replicateFlags groupFlags groupCount
  let subjectCount ← readCount ⟨.truncated, "policy subject count invalid"⟩
    ⟨.limitExceeded, "policy subject count invalid"⟩ kMaxSubjects
  let subjects ← replicateFlags subjectFlags subjectCount
  return enforce ++ groups ++ subjects

/-- The bytes at the flags of an encoded policy. -/
def policyFlags (bytes : ByteBuffer) : List UInt8 :=
  match readPolicyFlags bytes with
  | .ok (flags, _) => flags
  | .error _ => []

/-- A flag among other fields: written back, it is the only byte that may differ. -/
lemma flag_between (before after : ByteBuffer) (byte : UInt8) :
    (before ++ (byte :: after)).length =
        (before ++ (ByteWriter.flag (byte != 0) ++ after)).length ∧
      (before ++ (ByteWriter.flag (byte != 0) ++ after) = before ++ (byte :: after) ↔
        CanonicalFlags [byte]) := by
  constructor
  · simp [Nat.add_comm]
  · rw [List.append_cancel_left_eq, ← flag_eq_iff]
    exact @List.append_left_inj _ (ByteWriter.flag (byte != 0)) [byte] after

lemma readsFlags_readGroup : ReadsFlags readGroup groupFlags writeGroup := by
  intro input group rest hread
  simp only [readGroup, flag, bind_ok] at hread
  obtain ⟨id, _, h1, generation, _, h2, parent, _, h3, weight, _, h4, floor, _, h5, rank, _, h6,
    _, _, ⟨byte, _, h7, hbyte⟩, label, _, h8, hread⟩ := hread
  cases hbyte
  cases hread
  obtain ⟨hlength, hiff⟩ := flag_between
    (ByteWriter.u64 id ++ (ByteWriter.u64 generation ++ (ByteWriter.u64 parent ++
      (ByteWriter.u32 weight ++ (ByteWriter.u64 floor ++ ByteWriter.u32 rank)))))
    (ByteWriter.blob label) byte
  refine ⟨_, [byte], ?_, ?_, hlength.trans ?_, ?_⟩
  · simp only [groupFlags, bind_ok]
    exact ⟨_, _, h1, _, _, h2, _, _, h3, _, _, h4, _, _, h5, _, _, h6, _, _, h7, _, _, h8, rfl⟩
  · rw [reads_u64 _ _ _ _ h1, reads_u64 _ _ _ _ h2, reads_u64 _ _ _ _ h3, reads_u32 _ _ _ _ h4,
      reads_u64 _ _ _ _ h5, reads_u32 _ _ _ _ h6, reads_u8 _ _ _ _ h7, reads_blob _ _ _ _ _ h8]
    simp only [ByteWriter.u8, List.append_assoc, List.cons_append, List.nil_append]
  · simp only [writeGroup, List.append_assoc]
  · rw [← hiff]
    simp only [writeGroup, List.append_assoc]

lemma readsFlags_readSubject : ReadsFlags readSubject subjectFlags writeSubject := by
  intro input subject rest hread
  simp only [readSubject, flag, bind_ok] at hread
  obtain ⟨id, _, h1, generation, _, h2, group, _, h3, tenant, _, h4, weight, _, h5, floor, _, h6,
    starvation, _, h7, guarantee, _, h8, priority, _, h9, qos, _, h10, modifier, _, h11,
    priorityRank, _, h12, rank, _, h13, _, _, ⟨byte, _, h14, hbyte⟩, maxReduce, _, h15,
    maxAugment, _, h16, label, _, h17, hread⟩ := hread
  cases hbyte
  cases hread
  -- the flag is the one byte that the encoder may write differently
  obtain ⟨hlength, hiff⟩ := flag_between
    (ByteWriter.u64 id ++ (ByteWriter.u64 generation ++ (ByteWriter.u64 group ++
      (ByteWriter.u64 tenant ++ (ByteWriter.u32 weight ++ (ByteWriter.u64 floor ++
      (ByteWriter.u32 starvation ++ (ByteWriter.u32 guarantee ++ (writePriority priority ++
      (writeQos qos ++ (ByteWriter.u32 modifier ++ (ByteWriter.u32 priorityRank ++
      ByteWriter.u32 rank))))))))))))
    (ByteWriter.u64 maxReduce ++ (ByteWriter.u64 maxAugment ++ ByteWriter.blob label)) byte
  refine ⟨_, [byte], ?_, ?_, hlength.trans ?_, ?_⟩
  · simp only [subjectFlags, bind_ok]
    exact ⟨_, _, h1, _, _, h2, _, _, h3, _, _, h4, _, _, h5, _, _, h6, _, _, h7, _, _, h8, _, _, h9,
      _, _, h10, _, _, h11, _, _, h12, _, _, h13, _, _, h14, _, _, h15, _, _, h16, _, _, h17, rfl⟩
  · rw [reads_u64 _ _ _ _ h1, reads_u64 _ _ _ _ h2, reads_u64 _ _ _ _ h3, reads_u64 _ _ _ _ h4,
      reads_u32 _ _ _ _ h5, reads_u64 _ _ _ _ h6, reads_u32 _ _ _ _ h7, reads_u32 _ _ _ _ h8,
      reads_readPriority _ _ _ _ h9, reads_readQos _ _ _ _ h10, reads_u32 _ _ _ _ h11,
      reads_u32 _ _ _ _ h12, reads_u32 _ _ _ _ h13, reads_u8 _ _ _ _ h14, reads_u64 _ _ _ _ h15,
      reads_u64 _ _ _ _ h16, reads_blob _ _ _ _ _ h17]
    simp only [ByteWriter.u8, List.append_assoc, List.cons_append, List.nil_append]
  · simp only [writeSubject, List.append_assoc, UInt32.toUInt32_toInt32]
  · rw [← hiff]
    simp only [writeSubject, List.append_assoc, UInt32.toUInt32_toInt32]

lemma readsFlags_readPolicyFields : ReadsFlags readPolicyFields fieldsFlags writePolicyFields := by
  intro input policy rest hread
  simp only [readPolicyFields, flag, bind_ok] at hread
  obtain ⟨id, _, h1, generation, _, h2, epoch, _, h3, windowUnits, _, h4, band, _, h5, threshold, _,
    h6, cooldown, _, h7, units, _, h8, bps, _, h9, modifier, _, h10, ageWindows, _, h11, ageNs, _,
    h12, carry, _, h13, _, _, ⟨byte, _, h14, hbyte⟩, provenance, _, h15, hread⟩ := hread
  cases hbyte
  cases hread
  obtain ⟨hlength, hiff⟩ := flag_between
    (ByteWriter.u64 id ++ (ByteWriter.u64 generation ++ (ByteWriter.u64 epoch ++
      (ByteWriter.u64 windowUnits ++ (ByteWriter.u64 band ++ (ByteWriter.u64 threshold ++
      (ByteWriter.u32 cooldown ++ (ByteWriter.u64 units ++ (ByteWriter.u32 bps ++
      (ByteWriter.u32 modifier ++ (ByteWriter.u32 ageWindows ++ (ByteWriter.u64 ageNs ++
      ByteWriter.u64 carry))))))))))))
    (writeProvenance provenance) byte
  refine ⟨_, [byte], ?_, ?_, hlength.trans ?_, ?_⟩
  · simp only [fieldsFlags, bind_ok]
    exact ⟨_, _, h1, _, _, h2, _, _, h3, _, _, h4, _, _, h5, _, _, h6, _, _, h7, _, _, h8, _, _, h9,
      _, _, h10, _, _, h11, _, _, h12, _, _, h13, _, _, h14, _, _, h15, rfl⟩
  · rw [reads_u64 _ _ _ _ h1, reads_u64 _ _ _ _ h2, reads_u64 _ _ _ _ h3, reads_u64 _ _ _ _ h4,
      reads_u64 _ _ _ _ h5, reads_u64 _ _ _ _ h6, reads_u32 _ _ _ _ h7, reads_u64 _ _ _ _ h8,
      reads_u32 _ _ _ _ h9, reads_u32 _ _ _ _ h10, reads_u32 _ _ _ _ h11, reads_u64 _ _ _ _ h12,
      reads_u64 _ _ _ _ h13, reads_u8 _ _ _ _ h14, reads_readProvenance _ _ _ _ h15]
    simp only [ByteWriter.u8, List.append_assoc, List.cons_append, List.nil_append]
  · simp only [writePolicyFields, List.append_assoc]
  · rw [← hiff]
    simp only [writePolicyFields, List.append_assoc]

/-- A policy is written back as it was read exactly where its flags are canonical. -/
lemma readsFlags_readPolicy : ReadsFlags readPolicy readPolicyFlags encodePolicy := by
  intro input policy rest hread
  simp only [readPolicy, bind_ok] at hread
  obtain ⟨_, _, hversion, fields, _, hfields, groupCount, _, hgroupCount, groups, _, hgroups,
    subjectCount, _, hsubjectCount, subjects, _, hsubjects, hread⟩ := hread
  obtain ⟨bytes, enforce, henforce, rfl, hlength, hiff⟩ := readsFlags_readPolicyFields _ _ _ hfields
  obtain ⟨rfl, groupBytes, groupFound, hgroupFound, rfl, hgroupLength, hgroupIff⟩ :=
    readsFlags_readGroup.replicateM hgroups
  obtain ⟨rfl, subjectBytes, subjectFound, hsubjectFound, rfl, hsubjectLength, hsubjectIff⟩ :=
    readsFlags_readSubject.replicateM hsubjects
  cases hread
  -- the encoder writes the same parts in the same order; they differ in the flags alone
  have hwritten : encodePolicy { fields with groups := groups, subjects := subjects } =
      ByteWriter.u16 kFormatVersion ++ (writePolicyFields fields ++
        (ByteWriter.u32 (UInt32.ofNat groups.length) ++ (groups.flatMap writeGroup ++
        (ByteWriter.u32 (UInt32.ofNat subjects.length) ++ subjects.flatMap writeSubject)))) := by
    simp only [encodePolicy, writePolicyFields, List.append_assoc]
  refine ⟨ByteWriter.u16 kFormatVersion ++ (bytes ++
      (ByteWriter.u32 (UInt32.ofNat groups.length) ++ (groupBytes ++
      (ByteWriter.u32 (UInt32.ofNat subjects.length) ++ subjectBytes)))),
    enforce ++ groupFound ++ subjectFound, ?_, ?_, ?_, ?_⟩
  · simp only [readPolicyFlags, bind_ok]
    exact ⟨_, _, hversion, _, _, henforce, _, _, hgroupCount, _, _, hgroupFound, _, _,
      hsubjectCount, _, _, hsubjectFound, rfl⟩
  · rw [readVersion_ok hversion, readCount_ok hgroupCount, readCount_ok hsubjectCount]
    simp only [List.append_assoc]
  · rw [hwritten]
    simp only [List.length_append, hlength, hgroupLength, hsubjectLength]
  · rw [hwritten, List.append_cancel_left_eq, append_eq_iff hlength, List.append_cancel_left_eq,
      append_eq_iff hgroupLength, List.append_cancel_left_eq, hiff, hgroupIff, hsubjectIff,
      canonicalFlags_append, canonicalFlags_append, and_assoc]

/-! ## The whole format -/

/-- Accepted accounting and evidence are canonical, and an accepted policy is exactly where its
flags are. -/
theorem codecs_canonical_iff (bytes : ByteBuffer) :
    (∀ accounting, decodeAccounting bytes = .ok accounting →
      encodeAccounting accounting = bytes) ∧
    (∀ snapshot, decodeEvidence bytes = .ok snapshot → encodeEvidence snapshot = bytes) ∧
    ∀ policy, decodePolicy bytes = .ok policy →
      (encodePolicy policy = bytes ↔ CanonicalFlags (policyFlags bytes)) := by
  -- Accounting and evidence store no flag, so their readers give back the bytes outright.
  refine ⟨fun accounting h => ?_, fun snapshot h => ?_, fun policy h => ?_⟩
  · obtain ⟨-, hread⟩ := decodePayload_eq_ok.mp h
    have hbytes := reads_readAccounting _ _ _ hread
    rw [List.append_nil] at hbytes
    exact hbytes.symm
  · obtain ⟨_, hpayload, h⟩ := bind_eq_ok.mp h
    obtain ⟨-, h⟩ := bind_unit_eq_ok.mp h
    obtain rfl := Except.ok.inj h
    have hbytes := reads_readEvidence _ _ _ (decodePayload_eq_ok.mp hpayload).2
    rw [List.append_nil] at hbytes
    exact hbytes.symm
  · obtain ⟨_, hpayload, h⟩ := bind_eq_ok.mp h
    obtain ⟨-, h⟩ := bind_unit_eq_ok.mp h
    obtain rfl := Except.ok.inj h
    obtain ⟨read, found, hfound, hbytes, -, hiff⟩ :=
      readsFlags_readPolicy _ _ _ (decodePayload_eq_ok.mp hpayload).2
    rw [List.append_nil] at hbytes
    have hflags : policyFlags bytes = found := by
      unfold policyFlags
      rw [hfound]
    rw [hflags, ← hiff, hbytes]

theorem codecs_canonical_iff_flat : CanonicalFlags (policyFlags (encodePolicy flatPolicy)) :=
  ((codecs_canonical_iff _).2.2 flatPolicy
    (decodePolicy_encodePolicy flatPolicy_valid (encodePolicy_fits flatPolicy_valid))).mp rfl

/-- A policy with a flag byte that is neither zero nor one. -/
def oddFlagPolicy : ByteBuffer := (encodePolicy flatPolicy).set 90 2

/-- It is accepted, and the policy it decodes to is encoded otherwise. -/
theorem not_codecs_canonical :
    ¬ ∀ bytes policy, decodePolicy bytes = .ok policy → encodePolicy policy = bytes := by
  intro h
  have hodd : (decodePolicy oddFlagPolicy).toOption.any
      (fun policy => encodePolicy policy ≠ oddFlagPolicy) = true := by
    decide +kernel
  obtain ⟨policy, hdecode, hdiffers⟩ := exists_ok_of_any hodd
  exact of_decide_eq_true hdiffers (h oddFlagPolicy policy hdecode)

end FairnessGovernor
