/-
# Crash safety of the durable store

`Settles` is the invariant of a record's files: the committed record file holds the settled
record, or a replace was torn and then the journal is there and the backup holds it.  A commit
attempt leaves the settled record or puts its own in its place; a recovery leaves it, and when
it ends the record file holds it.
-/
import FairnessGovernor.Persist.StoreSpec
import FairnessGovernor.Persist.FileTriples

namespace FairnessGovernor

open Program Crash fsutil

namespace DurableStore

variable {store : DurableStore} {kind : RecordKind} {dir : Directory}
  {v : Option DecodedRecord} {record : DecodedRecord}

/-! ## The settled record -/

/-- A file holds a record. -/
def FileHolds (store : DurableStore) (kind : RecordKind) (dir : Directory) (file : RecordFile)
    (record : DecodedRecord) : Prop :=
  ∃ bytes, dir (store.path kind file) = some bytes ∧ decodeRecord bytes kind = .ok record

/-- The committed record file holds the settled record; without one there is no backup. -/
def Holds (store : DurableStore) (kind : RecordKind) :
    Option DecodedRecord → Directory → Prop
  | none, dir => dir (store.path kind .base) = none ∧ dir (store.path kind .backup) = none
  | some record, dir => store.FileHolds kind dir .base record

/-- A replace of the settled record was torn: it is in the backup, and the attempt is still
journalled. -/
structure Torn (store : DurableStore) (kind : RecordKind) (record : DecodedRecord)
    (dir : Directory) : Prop where
  base : ∃ bytes, dir (store.path kind .base) = some bytes ∧
    ∀ r, decodeRecord bytes kind ≠ .ok r
  backup : store.FileHolds kind dir .backup record
  journal : (dir (store.path kind .journal)).isSome

/-- What a recovery would make the committed record. -/
def Settles (store : DurableStore) (kind : RecordKind) (v : Option DecodedRecord)
    (dir : Directory) : Prop :=
  store.Holds kind v dir ∨ ∃ record, v = some record ∧ store.Torn kind record dir

/-- No companion file is left. -/
def Clean (store : DurableStore) (kind : RecordKind) (dir : Directory) : Prop :=
  ∀ file, file ≠ .base → dir (store.path kind file) = none

/-- The temporary file and the journal are no part of what is held. -/
lemma Holds.set {file : RecordFile} {bytes : Option ByteBuffer} (h : store.Holds kind v dir)
    (hbase : file ≠ .base) (hbackup : file = .backup → v = none → bytes = none) :
    store.Holds kind v (dir.set (store.path kind file) bytes) := by
  cases v with
  | none =>
    obtain ⟨hb, hp⟩ := h
    refine ⟨?_, ?_⟩
    · rw [set_path, if_neg fun hf => hbase hf.2.symm, hb]
    · rw [set_path]
      split_ifs with hf
      · exact hbackup hf.2.symm rfl
      · exact hp
  | some record =>
    obtain ⟨b, hb, hdec⟩ := h
    exact ⟨b, by rw [set_path, if_neg fun hf => hbase hf.2.symm, hb], hdec⟩

/-- Removing a companion leaves what is held. -/
lemma Holds.remove {file : RecordFile} (h : store.Holds kind v dir) (hbase : file ≠ .base) :
    store.Holds kind v (dir.set (store.path kind file) none) :=
  h.set hbase fun _ _ => rfl

lemma Holds.isSome (h : store.Holds kind v dir) :
    (dir (store.path kind .base)).isSome = v.isSome := by
  cases v with
  | none => rw [h.1]; rfl
  | some record => obtain ⟨b, hb, -⟩ := h; rw [hb]; rfl

/-! ## Loading -/

/-- What `load` gives on a fault-free directory. -/
def loads (store : DurableStore) (kind : RecordKind) (dir : Directory) : LoadedRecord :=
  if (dir (store.path kind .base)).isSome then
    loaded kind
      (dir.read (store.path kind .base) (kRecordHeaderSize + kMaxDurablePayloadBytes))
  else absent kind

lemma run_load (store : DurableStore) (kind : RecordKind) (dir : Directory) :
    run handle (store.load kind) dir = (store.loads kind dir, dir) := by
  unfold load loads
  show run handle (if (dir (store.path kind .base)).isSome then _ else _) dir = _
  split_ifs <;> rfl

/-- A decoded record, as it is loaded. -/
def loadedOf (kind : RecordKind) (record : DecodedRecord) : LoadedRecord :=
  { present := true, kind := kind, generation := record.generation
    writerBoot := record.writerBoot, writerOrdinal := record.writerOrdinal
    payload := record.payload }

lemma loaded_ok {bytes : ByteBuffer} (h : decodeRecord bytes kind = .ok record) :
    loaded kind (.ok bytes) = loadedOf kind record := by
  simp only [loaded, ok_bind, h]
  rfl

lemma not_loaded_ok {bytes : ByteBuffer} (h : ∀ r, decodeRecord bytes kind ≠ .ok r) :
    ¬ (loaded kind (.ok bytes)).ok := by
  simp only [loaded, ok_bind]
  cases hdec : decodeRecord bytes kind with
  | ok r => exact absurd hdec (h r)
  | error e => exact decodeRecord_error e hdec

lemma loaded_present (bytes : Except Status ByteBuffer) : (loaded kind bytes).present = true := by
  unfold loaded
  cases bytes >>= (decodeRecord · kind) with
  | ok record => rfl
  | error e => rfl

/-- Loading what is held. -/
lemma Holds.loads_eq (h : store.Holds kind v dir) :
    store.loads kind dir = v.elim (absent kind) (loadedOf kind) := by
  unfold loads
  cases v with
  | none => rw [h.1]; rfl
  | some record =>
    obtain ⟨b, hb, hdec⟩ := h
    have hread : dir.read (store.path kind .base) (kRecordHeaderSize + kMaxDurablePayloadBytes) =
        .ok b := Directory.read_eq_ok.mpr ⟨hb, (length_of_decodeRecord hdec).2.1⟩
    rw [if_pos (by rw [hb]; rfl), hread, loaded_ok hdec]
    rfl

lemma Holds.loads_ok (h : store.Holds kind (some record) dir) : (store.loads kind dir).ok := by
  rw [h.loads_eq]
  rfl

lemma Torn.not_loads_ok (h : store.Torn kind record dir) : ¬ (store.loads kind dir).ok := by
  obtain ⟨b, hb, hdec⟩ := h.base
  unfold loads
  rw [if_pos (by rw [hb]; rfl)]
  cases hread : dir.read (store.path kind .base)
      (kRecordHeaderSize + kMaxDurablePayloadBytes) with
  | error e => exact Directory.read_error hread
  | ok bytes =>
    obtain rfl : b = bytes := Option.some.inj (hb.symm.trans (Directory.read_eq_ok.mp hread).1)
    exact not_loaded_ok hdec

/-! ## Recovery -/

section Recover

variable {α : Type} {Q : α → Directory → Prop} {C : Directory → Prop}

lemma load_recover {f : LoadedRecord → FileM α} (hC : C dir)
    (h : Triple recoverDevice (· = dir) (f (store.loads kind dir)) Q C) :
    Triple recoverDevice (· = dir) (store.load kind >>= f) Q C := by
  have hload : Triple recoverDevice (· = dir) (store.load kind)
      (fun r d => r = store.loads kind dir ∧ d = dir) C := by
    unfold load loads
    refine fileExists_recover hC ?_
    split_ifs
    · exact Triple.step hC (Triple.done (fun d hd => ⟨rfl, hd⟩) fun d hd => hd ▸ hC)
    · exact Triple.done (fun d hd => ⟨rfl, hd⟩) fun d hd => hd ▸ hC
  refine Triple.bind hload fun r => ?_
  rintro d ⟨rfl, rfl⟩
  exact h d rfl

/-- What a recovery establishes. -/
structure Recovered (store : DurableStore) (kind : RecordKind) (v : Option DecodedRecord)
    (result : Except Status Unit × RecoveryNotes) (dir : Directory) : Prop where
  status : result.1 = .ok ()
  holds : store.Holds kind v dir
  clean : store.Clean kind dir

/-- The record file holds the settled record, and some companions are gone. -/
def HoldsWithout (store : DurableStore) (kind : RecordKind) (v : Option DecodedRecord)
    (gone : List RecordFile) (dir : Directory) : Prop :=
  store.Holds kind v dir ∧ ∀ file ∈ gone, dir (store.path kind file) = none

lemma HoldsWithout.clean {gone : List RecordFile} (h : store.HoldsWithout kind v gone dir)
    (hgone : ∀ file, file ≠ .base → file ∈ gone) : store.Clean kind dir :=
  fun file hfile => h.2 file (hgone file hfile)

/-- Removing companions. -/
lemma removeFiles_holds (gone files : List RecordFile)
    (hfiles : .base ∉ files) :
    Triple recoverDevice (store.HoldsWithout kind v gone)
      (removeFiles (files.map (store.path kind)))
      (fun _ => store.HoldsWithout kind v (files ++ gone)) (store.Settles kind v) := by
  refine (removeFiles_recover _ ?_).conseq (fun _ hd => hd) ?_ fun _ hd => .inl hd.1
  · rintro f hf d ⟨hd, hgone⟩
    obtain ⟨file, hfile, rfl⟩ := List.mem_map.mp hf
    refine ⟨hd.remove fun hbase => hfiles (hbase ▸ hfile), fun g hg => ?_⟩
    rw [set_path]
    split_ifs
    · rfl
    · exact hgone g hg
  · rintro _ d ⟨⟨hd, hgone⟩, hremoved⟩
    refine ⟨hd, fun g hg => ?_⟩
    rcases List.mem_append.mp hg with hg | hg
    · exact hremoved _ (List.mem_map_of_mem hg)
    · exact hgone g hg

/-- A recovery that removes what is left of the companions and reports success. -/
lemma removeFiles_recovered (gone files : List RecordFile)
    (hfiles : .base ∉ files) (hall : ∀ file, file ≠ .base → file ∈ files ++ gone)
    (notes : RecoveryNotes) :
    Triple recoverDevice (store.HoldsWithout kind v gone)
      (removeFiles (files.map (store.path kind)) >>= fun _ => pure (.ok (), notes))
      (store.Recovered kind v) (store.Settles kind v) := by
  refine Triple.bind (removeFiles_holds gone files hfiles) fun _ => ?_
  exact Triple.done (fun d hd => ⟨rfl, hd.1, hd.clean hall⟩) fun d hd => .inl hd.1

/-- Recovery with a journal, where the record file holds the settled record. -/
lemma recoverAttempt_holds (notes : RecoveryNotes) (h : store.Holds kind v dir) :
    Triple recoverDevice (· = dir)
      (store.recoverAttempt kind (dir (store.path kind .backup)).isSome notes)
      (store.Recovered kind v) (store.Settles kind v) := by
  unfold recoverAttempt
  refine load_recover (.inl h) ?_
  rw [h.loads_eq]
  cases v with
  | some record =>
    -- the replace completed: the companions are dropped
    rw [if_pos ⟨rfl, rfl⟩]
    refine (removeFiles_recovered [] [.journal, .backup, .temp] (by decide)
      (by intro file; cases file <;> decide) _).conseq ?_ (fun _ _ hd => hd) fun _ hd => hd
    rintro d rfl
    exact ⟨h, by simp⟩
  | none =>
    -- no record was ever committed: the attempt is abandoned
    rw [if_neg fun hp => Bool.false_ne_true hp.1, h.2]
    refine (removeFiles_recovered [.backup] [.journal, .temp] (by decide)
      (by intro file; cases file <;> decide) _).conseq ?_ (fun _ _ hd => hd) fun _ hd => hd
    rintro d rfl
    exact ⟨h, by simpa using h.2⟩

/-- Recovery with a journal, where the replace was torn: the backup is put back. -/
lemma recoverAttempt_torn (notes : RecoveryNotes) (h : store.Torn kind record dir) :
    Triple recoverDevice (· = dir)
      (store.recoverAttempt kind (dir (store.path kind .backup)).isSome notes)
      (store.Recovered kind (some record)) (store.Settles kind (some record)) := by
  obtain ⟨bytes, hbackup, hdec⟩ := h.backup
  have hsettles : store.Settles kind (some record) dir := .inr ⟨record, rfl, h⟩
  unfold recoverAttempt
  refine load_recover hsettles ?_
  rw [if_neg fun hp => h.not_loads_ok hp.2, hbackup, if_pos Option.isSome_some]
  refine replaceFile_recover hbackup hsettles ?_
  refine Triple.bind ((removeFiles_holds [.backup] [.journal, .temp] (by decide)).conseq ?_
    (fun _ _ hd => hd) fun _ hd => hd) fun _ => ?_
  · rintro d rfl
    refine ⟨⟨bytes, Directory.set_self .., hdec⟩, ?_⟩
    simp [Directory.move]
  · rintro d hd
    refine load_recover (.inl hd.1) ?_ d rfl
    rw [if_pos hd.1.loads_ok]
    refine Triple.done ?_ ?_
    · rintro _ rfl
      exact ⟨rfl, hd.1, hd.clean (by intro file; cases file <;> decide)⟩
    · rintro _ rfl
      exact .inl hd.1

/-- Removing a companion if it is there. -/
lemma removeIfPresent_holds (gone : List RecordFile) {file : RecordFile} (hfile : file ≠ .base)
    {present : Bool} (habsent : present = false → file ∈ gone) :
    Triple recoverDevice (store.HoldsWithout kind v gone)
      (removeFiles (if present then [store.path kind file] else []))
      (fun _ => store.HoldsWithout kind v (file :: gone)) (store.Settles kind v) := by
  cases present with
  | true => exact removeFiles_holds gone [file] (by simpa using hfile.symm)
  | false =>
    refine Triple.done ?_ fun d hd => .inl hd.1
    rintro d ⟨hd, hgone⟩
    refine ⟨hd, fun f hf => ?_⟩
    rcases List.mem_cons.mp hf with rfl | hf
    · exact hgone _ (habsent rfl)
    · exact hgone f hf

/-- Recovery without a journal: what is left of the companions is dropped. -/
lemma discardLeftovers_holds (notes : RecoveryNotes) (h : store.Holds kind v dir)
    (hjournal : dir (store.path kind .journal) = none) :
    Triple recoverDevice (· = dir)
      (store.discardLeftovers kind (dir (store.path kind .backup)).isSome
        (dir (store.path kind .temp)).isSome notes)
      (store.Recovered kind v) (store.Settles kind v) := by
  -- the companions that are not there count as removed already
  let gone := [RecordFile.temp, .journal, .backup].filter fun f => (dir (store.path kind f)).isNone
  have hstart : ∀ d, d = dir → store.HoldsWithout kind v gone d := by
    rintro d rfl
    exact ⟨h, fun file hfile => by simpa using (List.mem_filter.mp hfile).2⟩
  have hgone : ∀ file, file ≠ .base → (dir (store.path kind file)).isSome = false →
      file ∈ gone := by
    intro file hfile hnone
    refine List.mem_filter.mpr ⟨?_, by simpa using hnone⟩
    cases file with
    | base => exact absurd rfl hfile
    | temp | journal | backup => decide
  unfold discardLeftovers
  refine Triple.bind ((removeIfPresent_holds gone (by decide) (hgone _ (by decide))).conseq hstart
    (fun _ _ hd => hd) fun _ hd => hd) fun _ => ?_
  refine Triple.bind (removeIfPresent_holds _ (by decide)
    fun hnone => List.mem_cons_of_mem _ (hgone _ (by decide) hnone)) fun _ => ?_
  refine Triple.done (fun d hd => ⟨rfl, hd.1, hd.clean fun file hfile => ?_⟩) fun d hd => .inl hd.1
  cases file with
  | base => exact absurd rfl hfile
  | temp | backup => simp
  | journal => simp [hgone .journal (by decide) (by rw [hjournal]; rfl)]

/-- A recovery establishes the settled record, and a crash in the middle of it leaves it
settled. -/
theorem recover_triple (notes : RecoveryNotes) (h : store.Settles kind v dir) :
    Triple recoverDevice (· = dir) (store.recover kind notes) (store.Recovered kind v)
      (store.Settles kind v) := by
  unfold recover
  refine fileExists_recover h (fileExists_recover h (fileExists_recover h ?_))
  by_cases hjournal : (dir (store.path kind .journal)).isSome = true
  · rw [if_pos hjournal]
    rcases h with h | ⟨record, rfl, h⟩
    · exact recoverAttempt_holds notes h
    · exact recoverAttempt_torn notes h
  · rw [if_neg hjournal]
    rcases h with h | ⟨record, rfl, h⟩
    · exact discardLeftovers_holds notes h (by simpa using hjournal)
    · exact absurd h.journal hjournal

end Recover

/-! ## Commit -/

section Commit

variable {P E C : Directory → Prop} {Q : Unit → Directory → Prop}

lemma injected_commit {fault : Bool} {detail : String} (hC : ∀ d, P d → C d) :
    Attempts commitDevice P (injected fault detail) (fun _ => P) C C :=
  Attempts.pure (fun _ _ _ hd => hd) hC hC

lemma ignore_commit {α : Type} {p : FileM α} (hp : Triple commitDevice P p (fun _ => P) P)
    (hC : ∀ d, P d → C d) : Attempts commitDevice P (StatusM.ignore p) (fun _ => P) E C :=
  Triple.bind (hp.conseq (fun _ hd => hd) (fun _ _ hd => hd) hC)
    fun _ => Triple.done (fun _ hd => hd) hC

/-- What a failing phase leaves is what is left after the files of the attempt are removed. -/
lemma orAbandon_commit {p : StatusM Unit} {files : List String}
    (hp : Attempts commitDevice P p Q E C) (hQC : ∀ a d, Q a d → C d) (hEC : ∀ d, E d → C d)
    (hfiles : ∀ file ∈ files, ∀ d, E d → E (d.set file none)) :
    Attempts commitDevice P (orAbandon p files) Q E C := by
  refine Triple.bind hp fun r => ?_
  cases r with
  | ok a => exact Triple.done (fun _ hd => hd) (hQC a)
  | error e =>
    refine Triple.bind ((removeFiles_commit files hfiles).conseq (fun _ hd => hd)
      (fun _ _ hd => hd) hEC) fun _ => ?_
    exact Triple.done (fun _ hd => hd) hEC

/-- Loading in the middle of a commit: what is loaded without an error is held, and only a
missing record file is no record. -/
lemma load_commit : Triple commitDevice P (store.load kind) (fun r d => P d ∧
    (r.ok → ∃ record, store.FileHolds kind d .base record ∧ r = loadedOf kind record) ∧
    (r.present = false → d (store.path kind .base) = none)) P := by
  unfold load
  refine Triple.bind fileExists_commit fun present => ?_
  cases present with
  | false =>
    refine Triple.done (fun d hd => ⟨hd.1, fun hok => ?_, fun _ => ?_⟩) fun d hd => hd.1
    · cases hok
    · simpa using hd.2
  | true =>
    refine Triple.bind (readFile_commit.conseq (fun d hd => hd.1) (fun _ _ hd => hd)
      fun _ hd => hd) fun r => ?_
    cases r with
    | error e =>
      refine Triple.done (fun d hd => ⟨hd.1, fun hok => absurd hok hd.2, fun hp => ?_⟩)
        fun d hd => hd.1
      cases hp
    | ok bytes =>
      refine Triple.done (fun d hd => ⟨hd.1, fun hok => ?_, fun hp => ?_⟩) fun d hd => hd.1
      · cases hdec : decodeRecord bytes kind with
        | ok record => exact ⟨record, ⟨bytes, hd.2, hdec⟩, loaded_ok hdec⟩
        | error e => exact absurd hok (not_loaded_ok fun r => by simp [hdec])
      · rw [loaded_present] at hp
        cases hp

lemma Settles.holds_of_fileHolds (h : store.Settles kind v dir)
    (hfile : store.FileHolds kind dir .base record) :
    store.Holds kind v dir ∧ v = some record := by
  obtain ⟨bytes, hbase, hdec⟩ := hfile
  rcases h with h | ⟨r, rfl, h⟩
  · refine ⟨h, ?_⟩
    cases v with
    | none => rw [h.1] at hbase; cases hbase
    | some r =>
      obtain ⟨b, hb, hdec'⟩ := h
      obtain rfl : b = bytes := Option.some.inj (hb.symm.trans hbase)
      rw [Except.ok.inj (hdec'.symm.trans hdec)]
  · obtain ⟨b, hb, hdec'⟩ := h.base
    obtain rfl : b = bytes := Option.some.inj (hb.symm.trans hbase)
    exact absurd hdec (hdec' record)

/-- The generation that a commit over a record has to expect. -/
def generationOf (v : Option DecodedRecord) : UInt64 := v.elim 0 (·.generation)

/-- A commit goes on only where the record file holds the settled record, of the generation it
expects. -/
lemma checkDurable_commit (expectedGeneration : UInt64) :
    Attempts commitDevice (store.Settles kind v) (store.checkDurable kind expectedGeneration)
      (fun present d => (store.Holds kind v d ∧ present = v.isSome) ∧
        generationOf v = expectedGeneration) (store.Settles kind v) (store.Settles kind v) := by
  refine Attempts.bind (Attempts.lift fileExists_commit fun _ _ hd => hd.1) (fun _ hd => hd)
    fun present => ?_
  cases present with
  | true =>
    rw [if_pos rfl]
    refine Attempts.bind (Attempts.lift (load_commit.conseq (fun d hd => hd.1)
      (fun _ _ hd => hd) fun _ hd => hd) fun _ _ hd => hd.1) (fun _ hd => hd) fun current => ?_
    refine Attempts.pure ?_ (fun _ hd => hd.1) fun _ hd => hd.1
    rintro present hcheck d ⟨hd, hcurrent, -⟩
    simp only [rejectIf_bind_eq_ok, not_not] at hcheck
    obtain ⟨hok, hgeneration, hpresent⟩ := hcheck
    obtain ⟨record, hfile, hloaded⟩ := hcurrent hok
    obtain ⟨hholds, rfl⟩ := hd.holds_of_fileHolds hfile
    exact ⟨⟨hholds, (Except.ok.inj hpresent).symm⟩, by rw [← hgeneration, hloaded]; rfl⟩
  | false =>
    rw [if_neg Bool.false_ne_true]
    refine Attempts.pure ?_ (fun _ hd => hd.1) fun _ hd => hd.1
    rintro present hcheck d ⟨hd, hnone⟩
    obtain ⟨hgeneration, hpresent⟩ := rejectIf_bind_eq_ok.mp hcheck
    -- after a torn replacement there would be a file, so there is no record at all
    rcases hd with hd | ⟨record, rfl, hd⟩
    · have habsent : v.isSome = false := by rw [← hd.isSome, ← hnone]
      refine ⟨⟨hd, habsent ▸ (Except.ok.inj hpresent).symm⟩, ?_⟩
      obtain rfl : v = none := by simpa using habsent
      exact (not_not.mp hgeneration).symm
    · obtain ⟨b, hb, -⟩ := hd.base
      rw [hb] at hnone
      cases hnone

/-- The temporary file of an attempt is written. -/
lemma writeTemp_commit (encoded : ByteBuffer) :
    Attempts commitDevice (store.Holds kind v) (store.writeTemp kind encoded)
      (fun _ d => store.Holds kind v d ∧ d (store.path kind .temp) = some encoded)
      (store.Holds kind v) (store.Holds kind v) := by
  refine Attempts.bind (injected_commit fun _ hd => hd) (fun _ hd => hd) fun _ => ?_
  refine Attempts.bind (orAbandon_commit (writeFile_commit (Q := fun d => store.Holds kind v d ∧
    d (store.path kind .temp) = some encoded) ?_ (fun _ hd => hd) ?_) (fun _ _ hd => hd.1)
    (fun _ hd => hd) ?_) (fun _ hd => hd) fun _ => injected_commit fun _ hd => hd.1
  · intro d hd
    exact ⟨hd.set (by decide) (by simp), Directory.set_self ..⟩
  · intro d n hd
    exact hd.set (by decide) (by simp)
  · intro file hfile d hd
    obtain rfl := List.mem_singleton.mp hfile
    exact hd.remove (by decide)

/-- An attempt that is journalled, with the new record in its temporary file. -/
structure Journalled (store : DurableStore) (kind : RecordKind) (v : Option DecodedRecord)
    (encoded : ByteBuffer) (dir : Directory) : Prop where
  holds : store.Holds kind v dir
  temp : dir (store.path kind .temp) = some encoded
  journal : (dir (store.path kind .journal)).isSome

lemma writeJournal_commit (encoded journal : ByteBuffer) :
    Attempts commitDevice
      (fun d => store.Holds kind v d ∧ d (store.path kind .temp) = some encoded)
      (store.writeJournal kind journal) (fun _ => store.Journalled kind v encoded)
      (store.Holds kind v) (store.Holds kind v) := by
  refine Attempts.bind (orAbandon_commit (writeFile_commit (Q := store.Journalled kind v encoded)
    ?_ (fun _ hd => hd.1) ?_) (fun _ _ hd => hd.holds) (fun _ hd => hd) ?_) (fun _ hd => hd)
    fun _ => injected_commit fun _ hd => hd.holds
  · rintro d ⟨hd, htemp⟩
    exact ⟨hd.set (by decide) (by simp), by simpa using htemp, by simp⟩
  · rintro d n ⟨hd, -⟩
    exact hd.set (by decide) (by simp)
  · intro file hfile d hd
    obtain rfl := List.mem_singleton.mp hfile
    exact hd.remove (by decide)

/-- An attempt that is ready to replace the committed record: it is in the backup. -/
structure Ready (store : DurableStore) (kind : RecordKind) (v : Option DecodedRecord)
    (encoded : ByteBuffer) (dir : Directory) : Prop
    extends store.Journalled kind v encoded dir where
  backup : ∀ record, v = some record → store.FileHolds kind dir .backup record

lemma Holds.remove_attempt {file : String} (h : store.Holds kind v dir)
    (hfile : file ∈ [store.path kind .journal, store.path kind .temp]) :
    store.Holds kind v (dir.set file none) := by
  rcases List.mem_pair.mp hfile with rfl | rfl
  · exact h.remove (by decide)
  · exact h.remove (by decide)

lemma snapshotMain_commit (encoded : ByteBuffer) :
    Attempts commitDevice (store.Journalled kind v encoded) (store.snapshotMain kind v.isSome)
      (fun _ => store.Ready kind v encoded) (store.Holds kind v) (store.Holds kind v) := by
  cases v with
  | none =>
    exact Attempts.pure (fun _ _ d hd => ⟨hd, fun r hr => by cases hr⟩) (fun _ hd => hd.holds)
      fun _ hd => hd.holds
  | some record =>
    refine orAbandon_commit (Attempts.bind (E := store.Holds kind (some record))
      (Q := fun bytes d => store.Journalled kind (some record) encoded d ∧
        decodeRecord bytes kind = .ok record) ?_ (fun _ hd => hd)
      fun bytes => ?_) (fun _ _ hd => hd.holds) (fun _ hd => hd) fun f hf d hd =>
      hd.remove_attempt hf
    · -- what is read is the committed record
      refine readFile_commit.conseq (fun _ hd => hd) (fun r d hr => ?_) fun _ hd => hd.holds
      cases r with
      | error e => exact hr.1.holds
      | ok bytes =>
        obtain ⟨hd, hbase⟩ := hr
        obtain ⟨b, hb, hdec⟩ := hd.holds
        obtain rfl : b = bytes := Option.some.inj (hb.symm.trans hbase)
        exact ⟨hd, hdec⟩
    · refine writeFile_commit ?_ (fun _ hd => hd.1.holds) ?_
      · rintro d ⟨hd, hdec⟩
        refine ⟨⟨hd.holds.set (by decide) (by simp), by simpa using hd.temp,
          by simpa using hd.journal⟩, ?_⟩
        rintro r hr
        cases hr
        exact ⟨bytes, Directory.set_self .., hdec⟩
      · rintro d n ⟨hd, -⟩
        exact hd.holds.set (by decide) (by simp)

/-- What an attempt to commit `record` leaves: the settled record, or its own. -/
def Tried (store : DurableStore) (kind : RecordKind) (v : Option DecodedRecord)
    (record : DecodedRecord) (dir : Directory) : Prop :=
  store.Settles kind v dir ∨ store.Holds kind (some record) dir

lemma Settles.set_temp {bytes : Option ByteBuffer} (h : store.Settles kind v dir) :
    store.Settles kind v (dir.set (store.path kind .temp) bytes) := by
  rcases h with h | ⟨record, rfl, hbase, hbackup, hjournal⟩
  · exact .inl (h.set (by decide) (by simp))
  · refine .inr ⟨record, rfl, ?_, ?_, by simpa using hjournal⟩
    · simpa using hbase
    · simpa [FileHolds] using hbackup

lemma Tried.set_temp {bytes : Option ByteBuffer} (h : store.Tried kind v record dir) :
    store.Tried kind v record (dir.set (store.path kind .temp) bytes) := by
  rcases h with h | h
  · exact .inl h.set_temp
  · exact .inr (h.set (by decide) (by simp))

section Replace

variable {generation : UInt64} {writer : Incarnation} {payload : ByteBuffer}

/-- A torn replace leaves the new record, when nothing of it is missing, or it can be undone. -/
lemma Ready.torn {encoded : ByteBuffer} {old : DecodedRecord}
    (h : store.Ready kind (some old) encoded dir)
    (hencoded : encoded = encodeRecord kind generation writer payload)
    (hsize : payload.length ≤ kMaxDurablePayloadBytes) (n : ℕ) :
    store.Tried kind (some old) (recordOf generation writer payload)
      (dir.set (store.path kind .base) (some (encoded.take n))) := by
  by_cases hdec : ∃ r, decodeRecord (encoded.take n) kind = .ok r
  · obtain ⟨r, hr⟩ := hdec
    have hwhole := hr
    rw [hencoded] at hwhole
    refine .inr ⟨_, Directory.set_self .., ?_⟩
    rw [hencoded, decodeRecord_take hsize hwhole, decodeRecord_encodeRecord hsize]
  · refine .inl (.inr ⟨old, rfl, ⟨_, Directory.set_self .., not_exists.mp hdec⟩, ?_, ?_⟩)
    · obtain ⟨b, hb, hold⟩ := h.backup old rfl
      exact ⟨b, by simpa using hb, hold⟩
    · simpa using h.journal

lemma replaceMain_commit {encoded : ByteBuffer}
    (hencoded : encoded = encodeRecord kind generation writer payload)
    (hsize : payload.length ≤ kMaxDurablePayloadBytes)
    (htorn : store.faults.tornReplace = true → v ≠ none) :
    Attempts commitDevice (store.Ready kind v encoded) (store.replaceMain kind encoded)
      (fun _ => store.Holds kind (some (recordOf generation writer payload)))
      (store.Tried kind v (recordOf generation writer payload))
      (store.Tried kind v (recordOf generation writer payload)) := by
  have hready : ∀ d, store.Ready kind v encoded d →
      store.Tried kind v (recordOf generation writer payload) d := fun _ hd => .inl (.inl hd.holds)
  unfold replaceMain
  by_cases hfault : store.faults.tornReplace = true
  · rw [if_pos hfault]
    obtain ⟨old, rfl⟩ := Option.ne_none_iff_exists'.mp (htorn hfault)
    refine Attempts.bind (writeFile_commit (fun d hd => hd.torn hencoded hsize _) hready
      fun d n hd => ?_) (fun _ hd => hd) fun _ => ?_
    · rw [List.take_take]
      exact hd.torn hencoded hsize _
    · exact Attempts.bind (ignore_commit (removeFile_commit fun _ => Tried.set_temp)
        fun _ hd => hd) (fun _ hd => hd) fun _ => Attempts.pure (fun _ h => by cases h) (fun _ hd => hd) fun _ hd => hd
  · rw [if_neg hfault]
    refine Attempts.bind (E := store.Tried kind v (recordOf generation writer payload))
      ((orAbandon_commit (Q := fun _ => store.Holds kind (some (recordOf generation writer payload)))
        (E := store.Holds kind v)
        ((replaceFile_commit hready (fun _ hd => .inr hd) ?_ ?_).conseq (fun _ hd => hd)
          (fun _ _ hd => hd) (fun _ hd => hd.holds) fun _ hd => hd)
        (fun _ _ hd => .inr hd) (fun _ hd => .inl (.inl hd))
        fun f hf d hd => hd.remove_attempt hf).conseq (fun _ hd => hd) (fun _ _ hd => hd)
        (fun _ hd => .inl (.inl hd)) fun _ hd => hd) (fun _ hd => hd) fun _ => ?_
    · -- the whole record is moved into place
      intro d data hd hdata
      obtain rfl : encoded = data := Option.some.inj (hd.temp.symm.trans hdata)
      exact ⟨encoded, Directory.set_self .., by rw [hencoded, decodeRecord_encodeRecord hsize]⟩
    · intro d old data n hd hold hdata
      obtain rfl : encoded = data := Option.some.inj (hd.temp.symm.trans hdata)
      have hpresent := hd.holds.isSome
      rw [hold] at hpresent
      obtain ⟨old, rfl⟩ := Option.isSome_iff_exists.mp hpresent.symm
      exact hd.torn hencoded hsize n
    · exact ignore_commit syncDirectory_commit fun _ hd => .inr hd

lemma finish_commit :
    Attempts commitDevice (store.Holds kind (some record)) (store.finish kind)
      (fun _ => store.Holds kind (some record)) (store.Holds kind (some record))
      (store.Holds kind (some record)) := by
  refine Attempts.bind (injected_commit fun _ hd => hd) (fun _ hd => hd) fun _ => ?_
  refine ignore_commit (removeFiles_commit _ fun f hf d hd => ?_) fun _ hd => hd
  rcases List.mem_pair.mp hf with rfl | rfl
  · exact hd.remove (by decide)
  · exact hd.remove (by decide)

end Replace

/-- The injected faults that damage the new record on its way to the disk are left out, and a
replace is torn only where there is a record to replace. -/
structure CrashFaults (faults : StoreFaultInjection) (present : Bool) : Prop where
  corruptPayload : faults.corruptPayload = false
  truncateTemp : faults.truncateTemp = false
  tornReplace : faults.tornReplace = true → present = true

/-- An attempt to commit either puts its record in the place of the settled one, and when it
succeeds it has; or it leaves the settled record. -/
theorem commit_triple (hfaults : CrashFaults store.faults v.isSome)
    (expectedGeneration nextGeneration : UInt64) (payload : ByteBuffer) (writer : Incarnation) :
    Attempts commitDevice (store.Settles kind v)
      (store.commit kind expectedGeneration nextGeneration payload writer)
      (fun _ => store.Holds kind (some (recordOf nextGeneration writer payload)))
      (store.Tried kind v (recordOf nextGeneration writer payload))
      (store.Tried kind v (recordOf nextGeneration writer payload)) := by
  have hholds : ∀ d, store.Holds kind v d →
      store.Tried kind v (recordOf nextGeneration writer payload) d := fun _ hd => .inl (.inl hd)
  have hsettles : ∀ d, store.Settles kind v d →
      store.Tried kind v (recordOf nextGeneration writer payload) d := fun _ hd => .inl hd
  -- the faults that are left out would damage the bytes on their way
  have hdamaged : store.damaged (encodeRecord kind nextGeneration writer payload) =
      encodeRecord kind nextGeneration writer payload := by
    simp [damaged, hfaults.corruptPayload, hfaults.truncateTemp]
  have htorn : store.faults.tornReplace = true → v ≠ none := by
    rintro h rfl
    exact Bool.false_ne_true (hfaults.tornReplace h)
  unfold commit
  rw [hdamaged]
  refine Attempts.bind (Q := fun _ d => store.Settles kind v d ∧
    payload.length ≤ kMaxDurablePayloadBytes) (Attempts.pure ?_ hsettles hsettles)
    (fun _ hd => hd) fun _ => Triple.assume fun hsize => ?_
  · intro _ hcheck d hd
    simp only [checkCommit, rejectIf_bind_eq_ok, not_lt] at hcheck
    exact ⟨hd, hcheck.2.1⟩
  refine Attempts.bind ((checkDurable_commit expectedGeneration).conseq (fun _ hd => hd)
    (fun _ _ hd => hd.1) hsettles hsettles) (fun _ hd => hd) fun present => ?_
  refine Triple.assume fun hpresent => ?_
  rw [hpresent]
  -- up to the replacement of the main file the old record is what a crash leaves
  refine Attempts.bind ((writeTemp_commit _).conseq (fun _ hd => hd) (fun _ _ hd => hd) hholds
    hholds) (fun _ hd => hd) fun _ => ?_
  refine Attempts.bind ((writeJournal_commit _ _).conseq (fun _ hd => hd) (fun _ _ hd => hd)
    hholds hholds) (fun _ hd => hd) fun _ => ?_
  refine Attempts.bind ((snapshotMain_commit _).conseq (fun _ hd => hd) (fun _ _ hd => hd)
    hholds hholds) (fun _ hd => hd) fun _ => ?_
  refine Attempts.bind (replaceMain_commit rfl hsize htorn) (fun _ hd => hd) fun _ => ?_
  -- behind it the new one is
  exact finish_commit.conseq (fun _ hd => hd) (fun _ _ hd => hd) (fun _ hd => .inr hd)
    fun _ hd => .inr hd

end Commit

end DurableStore

end FairnessGovernor
